/-! # Sets of characters -/

namespace PublishGate.Pattern

structure CodeRange where
  low : Nat
  high : Nat
  deriving DecidableEq, Repr, Inhabited

def CodeRange.has (r : CodeRange) (n : Nat) : Bool :=
  decide (r.low ≤ n) && decide (n ≤ r.high)

/-- A set of code points as the union of its ranges, in any order and with any overlap. -/
structure Charset where
  ranges : List CodeRange
  deriving DecidableEq, Repr, Inhabited

namespace Charset

def top : Nat := 0x10FFFF

def has (s : Charset) (n : Nat) : Bool :=
  s.ranges.any (·.has n)

def contains (s : Charset) (c : Char) : Bool :=
  s.has c.toNat

def empty : Charset := ⟨[]⟩

def full : Charset := ⟨[⟨0, top⟩]⟩

def single (c : Char) : Charset := ⟨[⟨c.toNat, c.toNat⟩]⟩

def interval (low high : Nat) : Charset := ⟨[⟨low, high⟩]⟩

def ofPairs (ps : List (Nat × Nat)) : Charset := ⟨ps.map fun p => ⟨p.1, p.2⟩⟩

/-- The parts of the range from `start` to the largest code point that ranges in ascending order
leave free. -/
def gaps (start : Nat) : List CodeRange → List CodeRange
  | [] => if start ≤ top then [⟨start, top⟩] else []
  | r :: rest =>
    if start < r.low then ⟨start, r.low - 1⟩ :: gaps (max start (r.high + 1)) rest
    else gaps (max start (r.high + 1)) rest

def joinFrom (current : CodeRange) : List CodeRange → List CodeRange
  | [] => [current]
  | r :: rest =>
    if r.low ≤ current.high + 1 then joinFrom ⟨current.low, max current.high r.high⟩ rest
    else current :: joinFrom r rest

def place (r : CodeRange) : List CodeRange → List CodeRange
  | [] => [r]
  | x :: rest => if r.low ≤ x.low then r :: x :: rest else x :: place r rest

def ascending (s : Charset) : List CodeRange :=
  s.ranges.foldr place []

def tidy (s : Charset) : Charset :=
  match s.ascending with
  | [] => empty
  | r :: rest => ⟨joinFrom r rest⟩

def union (s t : Charset) : Charset :=
  ⟨s.ranges ++ t.ranges⟩

def complement (s : Charset) : Charset :=
  ⟨gaps 0 s.ascending⟩

def inter (s t : Charset) : Charset :=
  (s.complement.union t.complement).complement

def diff (s t : Charset) : Charset :=
  s.inter t.complement

def symmDiff (s t : Charset) : Charset :=
  (s.union t).diff (s.inter t)

def unionAll (sets : List Charset) : Charset :=
  ⟨sets.flatMap (·.ranges)⟩

end Charset

end PublishGate.Pattern
