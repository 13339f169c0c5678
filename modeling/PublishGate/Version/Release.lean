import PublishGate.Text.Blank
import PublishGate.Text.Decimal

/-! # Versions of the form MAJOR.MINOR.PATCH -/

namespace PublishGate

/-- A version that reads as three numbers and a suffix. The suffix is empty for a plain release and
otherwise starts with `-` or `+`. -/
structure Release where
  major : Nat
  minor : Nat
  patch : Nat
  suffix : List Char
  deriving DecidableEq, Repr

namespace Release

def bare (s : List Char) : List Char :=
  match Text.trimChars s with
  | 'v' :: rest => rest
  | s => s

def startsSuffix (c : Char) : Bool :=
  c = '-' || c = '+'

/-- Reads a version. Blanks around it and one leading `v` do not count; the three numbers are words
of 64 bits; the suffix runs from the first `-` or `+` to the end. -/
def ofChars? (s : List Char) : Option Release :=
  let core := (bare s).takeWhile (!startsSuffix ·)
  let suffix := (bare s).dropWhile (!startsSuffix ·)
  match core.splitOn '.' with
  | [a, b, c] =>
    match Text.word? a, Text.word? b, Text.word? c with
    | some major, some minor, some patch => some ⟨major, minor, patch, suffix⟩
    | _, _, _ => none
  | _ => none

def parse? (s : String) : Option Release :=
  ofChars? s.toList

def triple (r : Release) : Nat × Nat × Nat :=
  (r.major, r.minor, r.patch)

def tripleLt (a b : Nat × Nat × Nat) : Bool :=
  a.1 < b.1 || (a.1 = b.1 && (a.2.1 < b.2.1 || (a.2.1 = b.2.1 && a.2.2 < b.2.2)))

def isPlain (r : Release) : Bool :=
  r.suffix.isEmpty

end Release

end PublishGate
