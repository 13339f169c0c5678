import PublishGate.Version.Build
import PublishGate.Version.Compare

/-! # Deciding between a deployment and a dry run -/

namespace PublishGate

inductive SiteVersion where
  | unknown
  | single (version : String)
  | ambiguous (versions : List String)
  deriving DecidableEq, Repr

namespace SiteVersion

def ofMatches : List String → SiteVersion
  | [] => .unknown
  | [v] => .single v
  | vs => .ambiguous vs

def versions : SiteVersion → List String
  | .unknown => []
  | .single v => [v]
  | .ambiguous vs => vs

def single? : SiteVersion → Option String
  | .single v => some v
  | _ => none

def statusLine (site : SiteVersion) (url : String) (deploy : Bool) : String :=
  let outcome := if deploy then "enabled" else "set as dry run"
  match site with
  | .unknown => "Unable to fetch the current site version from " ++ url
  | .single v =>
    "Website " ++ url ++ " is at version " ++ v ++ ". Orchid deployment " ++ outcome ++ "."
  | .ambiguous vs =>
    "Multiple site versions fetched from " ++ url ++ ": [" ++ ", ".intercalate vs ++
      "]. Orchid deployment " ++ outcome ++ "."

end SiteVersion

structure Decision where
  siteUrl : String
  build : BuildVersion
  site : SiteVersion
  compare : CompareMode
  deploy : Bool
  message : String
  deriving DecidableEq, Repr

/-- Decides from the versions that a page shows: deployment needs exactly one, and a build that is
newer. -/
def decision (url : String) (build : BuildVersion) (found : List String) (mode : CompareMode) :
    Decision :=
  let site := SiteVersion.ofMatches found
  let deploy := match site.single? with
    | some published => mode.isNewer build.text published
    | none => false
  { siteUrl := url, build, site, compare := mode, deploy
    message := site.statusLine url deploy }

namespace Decision

def isDryRun (d : Decision) : Bool :=
  !d.deploy

def flag (b : Bool) : String :=
  if b then "true" else "false"

def deployFlag (d : Decision) : String :=
  flag d.deploy

def dryDeployFlag (d : Decision) : String :=
  flag (!d.deploy)

/-- The lines for the publishing task. The key line carries the dry-run flag, and the version is
left empty unless exactly one was found. -/
def outputLines (d : Decision) (key : String) : List String :=
  [key ++ "=" ++ d.dryDeployFlag,
   "deploy=" ++ d.deployFlag,
   "site_version=" ++ d.site.single?.getD ""]

end Decision

end PublishGate
