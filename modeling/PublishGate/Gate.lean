import PublishGate.Decision
import PublishGate.Page
import PublishGate.Site

/-! # The deployment gate -/

namespace PublishGate

inductive Level where
  | info
  | warn
  | error
  deriving DecidableEq, Repr

def Level.name : Level → String
  | .info => "info"
  | .warn => "warn"
  | .error => "error"

structure Event where
  level : Level
  message : String
  deriving DecidableEq, Repr

def Event.line (e : Event) : String :=
  "[" ++ e.level.name ++ "] " ++ e.message

structure Gate where
  site : Site
  pattern : VersionPattern
  compare : CompareMode := .lexicographic

namespace Gate

/-- The versions on the landing page, in page order. A page that cannot be fetched has none and
gives a warning. -/
def published (g : Gate) : List String × List Event :=
  match g.site.page with
  | .ok page => (g.pattern.scan page, [])
  | .error e => ([], [⟨.warn, "could not fetch " ++ g.site.url ++ ": " ++ e.message⟩])

def evaluate (g : Gate) (build : BuildVersion) : Decision × List Event :=
  let (found, events) := g.published
  let d := decision g.site.url build found g.compare
  (d, events ++ [⟨.info, d.message⟩])

end Gate

end PublishGate
