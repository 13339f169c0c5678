/-! # JSON values -/

namespace PublishGate

/-- A JSON value. Numbers keep their spelling, objects the order and repetition of their fields.
`broken` stands for a string, or an object with a field name, whose escapes name half a surrogate
pair: well-formed text that denotes no sequence of characters. -/
inductive Json where
  | null
  | bool (b : Bool)
  | number (spelling : String)
  | string (s : String)
  | broken
  | array (items : List Json)
  | object (fields : List (String × Json))
  deriving Repr, Inhabited

namespace Json

def named (name : String) (fields : List (String × Json)) : List Json :=
  (fields.filter (·.1 = name)).map (·.2)

def field? (name : String) : Json → Option Json
  | .object fields => (named name fields).head?
  | _ => none

end Json

end PublishGate
