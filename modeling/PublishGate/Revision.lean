import PublishGate.Revision.Describe
import PublishGate.Version.Build

/-! # The state of the sources and the version it gives -/

namespace PublishGate

/-- What a build version is derived from. The tag has no leading `v`. -/
structure Revision where
  tag : Option String
  distance : Nat
  commit : String
  dirty : Bool
  deriving DecidableEq, Repr

namespace Revision

def stamp (r : Revision) : String :=
  if r.dirty then r.commit ++ ".dirty" else r.commit

/-- A clean commit on a tag has the tag as its version. Any other state after a tag is a development
version of it, and a history without tags counts from 0.1.0. -/
def buildVersion (r : Revision) : BuildVersion :=
  match r.tag with
  | some tag =>
    if r.distance = 0 ∧ r.dirty = false then ⟨tag⟩
    else ⟨tag ++ "-dev" ++ String.ofList (Text.decimal r.distance) ++ "+" ++ r.stamp⟩
  | none => ⟨"0.1.0-archeo+" ++ r.stamp⟩

def ofDescribe (described : Option Describe) (commit : String) (dirty : Bool) : Revision :=
  match described with
  | some d => ⟨some (releaseTag d.tag), d.distance, commit, dirty⟩
  | none => ⟨none, 0, commit, dirty⟩

end Revision

end PublishGate
