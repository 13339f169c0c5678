import PublishGate.Path
import PublishGate.Settings

/-! # What the program is told to do -/

namespace PublishGate

inductive ReportFormat where
  | text
  | json
  deriving DecidableEq, Repr

structure Options where
  config : Option Path := none
  baseUrl : Option String := none
  betaSuffix : Option String := none
  pattern : Option String := none
  timeout : Option String := none
  compare : Option CompareMode := none
  buildVersion : Option String := none
  repo : Option Path := none
  stable : Bool := false
  beta : Bool := false
  deriving DecidableEq, Repr

structure CheckOptions where
  format : Option ReportFormat := none
  output : Option Path := none
  outputKey : Option String := none
  page : Option Path := none
  deriving DecidableEq, Repr

inductive Action where
  | check (options : CheckOptions)
  | version
  | url
  | scan (page : Path)
  deriving DecidableEq, Repr

structure Command where
  options : Options
  action : Action
  deriving DecidableEq, Repr

def Options.repoPath (o : Options) : Path :=
  o.repo.getD ⟨"."⟩

/-- The settings that the options make, but for the timeout, which has yet to be read. -/
def Options.settings (o : Options) (timeout : Option Duration) : Settings :=
  { baseUrl := o.baseUrl, betaSuffix := o.betaSuffix, pattern := o.pattern, timeout
    compare := o.compare }

/-- The address that a build belongs to. The options may say which of the two it is; otherwise the
version of the build does. -/
def Options.siteUrl (o : Options) (site : DocsSite) (build : BuildVersion) : String :=
  if o.stable then site.url true
  else if o.beta then site.url false
  else site.urlFor build

inductive Notice where
  | usage
  | help
  | version
  deriving DecidableEq, Repr

namespace Notice

def usageText : String :=
  "Usage: docgate [OPTIONS] <check|version|url|scan>"

def text : Notice → String
  | usage => usageText
  | help => usageText
  | version => "docgate 0.1.0"

def exitCode : Notice → Nat
  | usage => 2
  | help => 0
  | version => 0

end Notice

end PublishGate
