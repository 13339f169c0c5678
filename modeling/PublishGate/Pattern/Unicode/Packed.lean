import PublishGate.Pattern.Charset

/-! # Packed tables of characters -/

namespace PublishGate.Pattern.Unicode

/-- A named set of characters. The ranges are written one after the other, each as the number of
code points left out before it and the number of its code points less one. A number is written in
base 32, its last digit as one of `a` to `z` and `A` to `F` and the digits before as one of `G` to
`Z`, `0` to `9`, `+` and `*`. -/
structure Packed where
  names : List String
  lines : List String
  deriving Repr

namespace Packed

/-- The value of a digit, 32 and above for a digit that others follow. -/
def digit (c : Char) : Nat :=
  if 'a' ≤ c then c.toNat - 97
  else if 'G' ≤ c then c.toNat - 71 + 32
  else if 'A' ≤ c then c.toNat - 65 + 26
  else if '0' ≤ c then c.toNat - 48 + 52
  else if c = '+' then 62
  else 63

def numbers (value : Nat) : List Char → List Nat
  | [] => []
  | c :: rest =>
    if digit c < 32 then (32 * value + digit c) :: numbers 0 rest
    else numbers (32 * value + (digit c - 32)) rest

def ranges (start : Nat) : List Nat → List CodeRange
  | skip :: more :: rest =>
    ⟨start + skip, start + skip + more⟩ :: ranges (start + skip + more + 1) rest
  | _ => []

def charset (p : Packed) : Charset :=
  ⟨ranges 0 (numbers 0 (p.lines.flatMap String.toList))⟩

def find? (name : String) (table : List Packed) : Option Packed :=
  table.find? fun p => p.names.contains name

end Packed

end PublishGate.Pattern.Unicode
