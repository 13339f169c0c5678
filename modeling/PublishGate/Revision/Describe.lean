import PublishGate.Text.Blank
import PublishGate.Text.Decimal
import PublishGate.Text.Pieces

/-! # Describing a commit by the nearest tag -/

namespace PublishGate

structure Describe where
  tag : String
  distance : Nat
  commit : String
  deriving DecidableEq, Repr

namespace Describe

/-- Reads `TAG-DISTANCE-gCOMMIT`, split from the right so that tags may hold dashes. -/
def ofChars? (s : List Char) : Option Describe :=
  match Text.cutLast? '-' s with
  | some (front, 'g' :: commit) =>
    match Text.cutLast? '-' front with
    | some (tag, count) =>
      match Text.word? count with
      | some distance =>
        if tag.isEmpty || commit.isEmpty then none
        else some ⟨String.ofList tag, distance, String.ofList commit⟩
      | none => none
    | none => none
  | _ => none

def parse? (raw : String) : Option Describe :=
  ofChars? (Text.trimChars raw.toList)

end Describe

/-- A release tag without its conventional `v`, which only counts in front of a digit. -/
def releaseTag (tag : String) : String :=
  match tag.toList with
  | 'v' :: d :: rest => if d.isDigit then String.ofList (d :: rest) else tag
  | _ => tag

end PublishGate
