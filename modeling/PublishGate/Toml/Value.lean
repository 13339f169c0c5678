import PublishGate.Json.Value

/-! # TOML values and the rules for defining tables -/

namespace PublishGate.Toml

/-- How a table came about: between braces, by a header of its own, by a longer header, or by a
dotted key. -/
inductive Origin where
  | inline
  | header
  | implied
  | dotted
  deriving DecidableEq, Repr

/-- A value. Numbers, dates and times keep their spelling. An array of tables that is made by
headers has at least one table, the last of which is still open. -/
inductive Value where
  | string (s : String)
  | bool (b : Bool)
  | literal (spelling : String)
  | array (items : List Value)
  | table (origin : Origin) (fields : List (String × Value))
  | tables (earlier : List (List (String × Value))) (last : List (String × Value))
  deriving Repr, Inhabited

abbrev Fields := List (String × Value)

namespace Fields

def alter? (name : String) (change : Option Value → Option Value) : Fields → Option Fields
  | [] => (change none).map fun v => [(name, v)]
  | (k, v) :: fields =>
    if k = name then (change (some v)).map fun w => (k, w) :: fields
    else (alter? name change fields).map ((k, v) :: ·)

/-- Goes along the path of a header and edits the table at its end. Tables on the way are made
where they are missing, an array of tables stands for its last one, and inline tables are closed. -/
def along? : List String → (Fields → Option Fields) → Fields → Option Fields
  | [], edit, fields => edit fields
  | name :: path, edit, fields =>
    alter? name (fun
      | none => (along? path edit []).map (.table .implied)
      | some (.table .inline _) => none
      | some (.table origin fs) => (along? path edit fs).map (.table origin)
      | some (.tables earlier last) => (along? path edit last).map (.tables earlier)
      | some _ => none) fields

/-- Defines a dotted key. The table that gets the last part must be made by dotted keys alone; those
before it may also be implied by a header. A name has one value. -/
def define? : List String → Value → Fields → Option Fields
  | [], _, _ => none
  | [name], value, fields =>
    alter? name (fun
      | none => some value
      | some _ => none) fields
  | name :: next :: path, value, fields =>
    alter? name (fun
      | none => (define? (next :: path) value []).map (.table .dotted)
      | some (.table .dotted fs) => (define? (next :: path) value fs).map (.table .dotted)
      | some (.table .implied fs) =>
        if path.isEmpty then none else (define? (next :: path) value fs).map (.table .implied)
      | some (.tables earlier last) =>
        if path.isEmpty then none else (define? (next :: path) value last).map (.tables earlier)
      | some _ => none) fields

/-- Opens the table of a header, which must be new or only implied so far. -/
def openTable? (name : String) (fields : Fields) : Option Fields :=
  alter? name (fun
    | none => some (.table .header [])
    | some (.table .implied fs) => some (.table .header fs)
    | some _ => none) fields

def openElement? (name : String) (fields : Fields) : Option Fields :=
  alter? name (fun
    | none => some (.tables [] [])
    | some (.tables earlier last) => some (.tables (earlier ++ [last]) [])
    | some _ => none) fields

end Fields

inductive Statement where
  | pair (path : List String) (value : Value)
  | table (path : List String)
  | element (path : List String)
  deriving Repr

structure Draft where
  root : Fields
  path : List String
  deriving Repr

namespace Draft

def add? (d : Draft) : Statement → Option Draft
  | .pair path value =>
    (Fields.along? d.path (Fields.define? path value) d.root).map ({ d with root := · })
  | .table path =>
    match path.getLast? with
    | some name =>
      (Fields.along? path.dropLast (Fields.openTable? name) d.root).map (⟨·, path⟩)
    | none => none
  | .element path =>
    match path.getLast? with
    | some name =>
      (Fields.along? path.dropLast (Fields.openElement? name) d.root).map (⟨·, path⟩)
    | none => none

end Draft

def Fields.ofStatements? (statements : List Statement) : Option Fields :=
  (statements.foldlM Draft.add? ⟨[], []⟩).map (·.root)

/-! ## As JSON -/

mutual

/-- The value with the distinctions dropped that only matter while a document is read. -/
def Value.toJson : Value → Json
  | .string s => .string s
  | .bool b => .bool b
  | .literal spelling => .number spelling
  | .array items => .array (toJsonItems items)
  | .table _ fields => .object (toJsonFields fields)
  | .tables earlier last => .array (toJsonTables earlier ++ [.object (toJsonFields last)])

def toJsonItems : List Value → List Json
  | [] => []
  | v :: items => v.toJson :: toJsonItems items

def toJsonFields : List (String × Value) → List (String × Json)
  | [] => []
  | (name, v) :: fields => (name, v.toJson) :: toJsonFields fields

def toJsonTables : List (List (String × Value)) → List Json
  | [] => []
  | fields :: tables => .object (toJsonFields fields) :: toJsonTables tables

end

end PublishGate.Toml
