import PublishGate.Pattern.Reader
import PublishGate.Pattern.Search

/-! # Versions on a page -/

namespace PublishGate

inductive PatternError where
  | invalid (cause : String)
  | groups (pattern : String) (found : Nat)
  deriving DecidableEq, Repr

def PatternError.message : PatternError → String
  | .invalid cause => "invalid version pattern: " ++ cause
  | .groups pattern found =>
    "version pattern '" ++ pattern ++ "' must have exactly one capture group, found " ++
      toString found

/-- A pattern with exactly one group, which holds the version. -/
structure VersionPattern where
  source : String
  expr : Pattern.Expr
  program : Pattern.Program
  deriving DecidableEq, Repr

namespace VersionPattern

def footer : String := ".*Currently\\s*(.+)\\.\\s*Created"

def ofParsed (source : String) : Except String Pattern.Expr → Except PatternError VersionPattern
  | .error cause => .error (.invalid cause)
  | .ok expr =>
    if expr.groups = 1 then .ok ⟨source, expr, .ofExpr expr⟩
    else .error (.groups source expr.groups)

def read (dialect : Pattern.Dialect) (source : String) : Except PatternError VersionPattern :=
  ofParsed source (dialect.read source)

def isLineEnd (c : Char) : Bool :=
  c = '\r' || c = '\n'

/-- The version on a line: the group of its first match, if the group takes part in it. -/
def onLine? (p : VersionPattern) (line : List Char) : Option (List Char) :=
  (p.program.search line).bind Pattern.Captured.text?

/-- The versions on a page, at most one a line, in page order. -/
def scan (p : VersionPattern) (page : String) : List String :=
  ((page.toList.splitOnP isLineEnd).filterMap p.onLine?).map String.ofList

end VersionPattern

end PublishGate
