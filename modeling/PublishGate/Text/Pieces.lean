/-! # Cutting text at separators -/

namespace PublishGate.Text

/-- The text before and after the last `sep`, when there is one. -/
def cutLast? (sep : Char) : List Char → Option (List Char × List Char)
  | [] => none
  | c :: s =>
    match cutLast? sep s with
    | some (a, b) => some (c :: a, b)
    | none => if c = sep then some ([], s) else none

def cutFirst? (mark : List Char) : List Char → Option (List Char × List Char)
  | [] => none
  | c :: s =>
    match mark.isPrefixOf? (c :: s) with
    | some later => some ([], later)
    | none => (cutFirst? mark s).map fun (a, b) => (c :: a, b)

end PublishGate.Text
