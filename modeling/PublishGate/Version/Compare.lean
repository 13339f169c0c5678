import PublishGate.Version.Release

/-! # Which of two versions is the newer one -/

namespace PublishGate

inductive CompareMode where
  | lexicographic
  | semantic
  deriving DecidableEq, Repr, Inhabited

namespace CompareMode

def name : CompareMode → String
  | .lexicographic => "lexicographic"
  | .semantic => "semantic"

def ofName? (s : String) : Option CompareMode :=
  if s = "lexicographic" then some .lexicographic
  else if s = "semantic" then some .semantic
  else none

def lowerAscii (c : Char) : Char :=
  if 'A' ≤ c ∧ c ≤ 'Z' then Char.ofNat (c.toNat + 32) else c

def normalForm (s : String) : String :=
  String.ofList ((Text.trimChars s.toList).map lowerAscii)

/-- Reads a mode as a person writes it: in any case, blanks around it, `string` and `semver` being
other names of the two modes. -/
def read (s : String) : Except String CompareMode :=
  let word := normalForm s
  if word = "lexicographic" ∨ word = "string" then .ok .lexicographic
  else if word = "semantic" ∨ word = "semver" then .ok .semantic
  else .error ("unknown compare mode '" ++ word ++ "' (expected 'lexicographic' or 'semantic')")

end CompareMode

/-- Two versions that read as releases compare by their numbers first. With equal numbers a plain
release is above every suffixed one, and two suffixed ones compare as texts. Any other pair compares
as texts. -/
def Release.newer (build published : String) : Bool :=
  match Release.parse? build, Release.parse? published with
  | some b, some p =>
    if Release.tripleLt p.triple b.triple then true
    else if Release.tripleLt b.triple p.triple then false
    else match b.isPlain, p.isPlain with
      | true, true => false
      | true, false => true
      | false, true => false
      | false, false => decide (published < build)
  | _, _ => decide (published < build)

/-- Whether `build` is strictly newer than `published`. Texts compare by code points, which is the
order of their UTF-8 bytes. -/
def CompareMode.isNewer (mode : CompareMode) (build published : String) : Bool :=
  match mode with
  | .lexicographic => decide (published < build)
  | .semantic => Release.newer build published

end PublishGate
