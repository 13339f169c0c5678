/-! # Whole numbers in decimal text -/

namespace PublishGate.Text

def digitValue (c : Char) : Nat :=
  c.toNat - '0'.toNat

def digitsValue (ds : List Char) : Nat :=
  ds.foldl (fun n c => 10 * n + digitValue c) 0

def isNatural (s : List Char) : Bool :=
  !s.isEmpty && s.all Char.isDigit

def wordBound : Nat := 0x10000000000000000

/-- Reads an unsigned word of 64 bits: an optional plus sign and one digit or more. Leading zeros
are no fault, a value of `2 ^ 64` or above is. -/
def word? (s : List Char) : Option Nat :=
  let ds := match s with
    | '+' :: ds => ds
    | ds => ds
  if isNatural ds && decide (digitsValue ds < wordBound) then some (digitsValue ds) else none

def decimal (n : Nat) : List Char :=
  Nat.toDigits 10 n

def padded (width n : Nat) : List Char :=
  List.replicate (width - (decimal n).length) '0' ++ decimal n

end PublishGate.Text
