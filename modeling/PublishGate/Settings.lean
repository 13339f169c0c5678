import PublishGate.DocsSite
import PublishGate.Duration
import PublishGate.Page
import PublishGate.Path
import PublishGate.Version.Compare

/-! # Settings and their layers -/

namespace PublishGate

structure Settings where
  baseUrl : Option String := none
  betaSuffix : Option String := none
  pattern : Option String := none
  timeout : Option Duration := none
  compare : Option CompareMode := none
  key : Option String := none
  file : Option Path := none
  deriving DecidableEq, Repr, Inhabited

namespace Settings

/-- The settings of `upper` and, where it sets none, those of `lower`. -/
def merge (lower upper : Settings) : Settings where
  baseUrl := upper.baseUrl <|> lower.baseUrl
  betaSuffix := upper.betaSuffix <|> lower.betaSuffix
  pattern := upper.pattern <|> lower.pattern
  timeout := upper.timeout <|> lower.timeout
  compare := upper.compare <|> lower.compare
  key := upper.key <|> lower.key
  file := upper.file <|> lower.file

def docsSite (s : Settings) : DocsSite :=
  let defaults : DocsSite := {}
  ⟨s.baseUrl.getD defaults.baseUrl, s.betaSuffix.getD defaults.betaSuffix⟩

def patternSource (s : Settings) : String :=
  s.pattern.getD VersionPattern.footer

def compareMode (s : Settings) : CompareMode :=
  s.compare.getD .lexicographic

def defaultKey : String := "dry_deploy"

def outputKey (s : Settings) : String :=
  s.key.getD defaultKey

def anchored (s : Settings) (base : Path) : Settings :=
  { s with file := s.file.map base.join }

end Settings

end PublishGate
