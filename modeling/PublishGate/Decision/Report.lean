import PublishGate.Decision
import PublishGate.DocsSite
import PublishGate.Instant
import PublishGate.Json.Reader
import PublishGate.Json.Writer

/-! # Decisions in JSON -/

namespace PublishGate

def SiteVersion.toJson : SiteVersion → Json
  | .unknown => .object [("kind", .string "unknown")]
  | .single v => .object [("kind", .string "single"), ("versions", .string v)]
  | .ambiguous vs =>
    .object [("kind", .string "ambiguous"), ("versions", .array (vs.map .string))]

namespace Decision

def fields (d : Decision) : List (String × Json) :=
  [("site_url", .string d.siteUrl), ("build_version", .string d.build.text),
   ("site_version", d.site.toJson), ("compare", .string d.compare.name),
   ("deploy", .bool d.deploy), ("message", .string d.message)]

def toJson (d : Decision) : Json :=
  .object d.fields

def report (d : Decision) (evaluatedAt : String) : Json :=
  .object (d.fields ++ [("dry_deploy", .bool d.isDryRun), ("evaluated_at", .string evaluatedAt)])

def reportText (d : Decision) (evaluatedAt : Instant) : String :=
  (d.report evaluatedAt.text).prettyText

end Decision

def DocsSite.toJson (site : DocsSite) : Json :=
  .object [("base_url", .string site.baseUrl), ("beta_suffix", .string site.betaSuffix)]

/-! ## Reading back

A record is an object with each named field at most once and any others besides, or an array of
exactly the fields in order. -/

namespace Json

def text? : Json → Option String
  | .string s => some s
  | _ => none

def bool? : Json → Option Bool
  | .bool b => some b
  | _ => none

def list? : Json → Option (List Json)
  | .array items => some items
  | _ => none

/-- One entry for each name: the value of its only field, or nothing when there is no such field.
Repeated fields are refused. -/
def pick? (names : List String) (fields : List (String × Json)) : Option (List (Option Json)) :=
  names.mapM fun name =>
    match named name fields with
    | [] => some none
    | [v] => some (some v)
    | _ => none

def record? (names : List String) : Json → Option (List (Option Json))
  | .object fields => pick? names fields
  | .array items => if items.length = names.length then some (items.map some) else none
  | _ => none

end Json

def BuildVersion.ofJson? (v : Json) : Option BuildVersion :=
  v.text?.map .mk

/-- Reads the name of a mode, alone or as the only field of an object with the value `null`. -/
def CompareMode.ofJson? : Json → Option CompareMode
  | .string s => CompareMode.ofName? s
  | .object [(name, .null)] => CompareMode.ofName? name
  | _ => none

/-- The versions that belong to a kind. The unknown kind has none, which `null` may say. -/
def SiteVersion.ofParts? (kind : String) (content : Option Json) : Option SiteVersion :=
  match kind, content with
  | "unknown", none => some .unknown
  | "unknown", some .null => some .unknown
  | "single", some v => v.text?.map .single
  | "ambiguous", some v => (v.list?.bind (·.mapM Json.text?)).map .ambiguous
  | _, _ => none

def SiteVersion.ofJson? (v : Json) : Option SiteVersion :=
  match v.record? ["kind", "versions"] with
  | some [some kind, content] => kind.text?.bind (SiteVersion.ofParts? · content)
  | _ => none

def DocsSite.ofJson? (v : Json) : Option DocsSite :=
  match v.record? ["base_url", "beta_suffix"] with
  | some [some baseUrl, some betaSuffix] => do
    return ⟨← baseUrl.text?, ← betaSuffix.text?⟩
  | _ => none

def Decision.ofJson? (v : Json) : Option Decision :=
  match v.record? ["site_url", "build_version", "site_version", "compare", "deploy", "message"] with
  | some [some siteUrl, some build, some site, some compare, some deploy, some message] => do
    return {
      siteUrl := ← siteUrl.text?
      build := ← BuildVersion.ofJson? build
      site := ← SiteVersion.ofJson? site
      compare := ← CompareMode.ofJson? compare
      deploy := ← deploy.bool?
      message := ← message.text? }
  | _ => none

end PublishGate
