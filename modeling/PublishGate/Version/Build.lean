import PublishGate.Text.Decimal

/-! # The version of a build -/

namespace PublishGate

structure BuildVersion where
  text : String
  deriving DecidableEq, Repr

def isDigitTriple (s : List Char) : Bool :=
  match s.splitOn '.' with
  | [a, b, c] => Text.isNatural a && Text.isNatural b && Text.isNatural c
  | _ => false

/-- A build is stable when its version is a bare triple of numbers. -/
def BuildVersion.isStable (v : BuildVersion) : Bool :=
  isDigitTriple v.text.toList

end PublishGate
