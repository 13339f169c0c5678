import PublishGate.Command
import PublishGate.Decision.Report
import PublishGate.Host

/-! # The program -/

namespace PublishGate

inductive Failure where
  | workingDirectory (cause : FileError)
  | missingSettings (file : Path)
  | settings (cause : SettingsError)
  | timeout (text : String) (cause : Duration.Fault)
  | version (cause : GitError)
  | pattern (cause : PatternError)
  | input (cause : FileError)
  | page (file : Path) (cause : FileError)
  | output (cause : OutputError)
  deriving DecidableEq, Repr

def Failure.message : Failure → String
  | .workingDirectory cause => "failed to read working directory: " ++ cause.message
  | .missingSettings file => "config file not found: " ++ file.text
  | .settings cause => cause.message
  | .timeout text cause => "invalid duration: " ++ text ++ ": " ++ cause.message
  | .version cause =>
    "failed to derive build version from git; pass --build-version to skip: " ++ cause.message
  | .pattern cause => cause.message
  | .input cause => "failed to read page from stdin: " ++ cause.message
  | .page file cause => "failed to read page: " ++ file.text ++ ": " ++ cause.message
  | .output cause => cause.message

def Options.readTimeout (o : Options) : Except Failure (Option Duration) :=
  match o.timeout with
  | none => .ok none
  | some text =>
    match Duration.read text with
    | .ok d => .ok (some d)
    | .error cause => .error (.timeout text cause)

def Path.isInput (p : Path) : Bool :=
  p.components == [['-']]

/-- The key and the file that a decision is written under and to: those of the options, else those of
the settings. -/
def CheckOptions.key (o : CheckOptions) (s : Settings) : String :=
  o.outputKey.getD s.outputKey

def CheckOptions.file (o : CheckOptions) (s : Settings) : Option Path :=
  o.output <|> s.file

namespace Host

variable {m : Type → Type} [Monad m] (host : Host m)

def orFail {ε α : Type} (failure : ε → Failure) (result : m (Except ε α)) : ExceptT Failure m α := do
  match ← result with
  | .ok a => return a
  | .error cause => throw (failure cause)

def fileSettings (o : Options) : ExceptT Failure m Settings := do
  match o.config with
  | some file =>
    if !(← host.present file) then throw (.missingSettings file)
    orFail .settings (host.loadSettings file)
  | none =>
    match ← host.findSettings (← orFail .workingDirectory host.workingDirectory) with
    | some file => orFail .settings (host.loadSettings file)
    | none => return {}

def settings (o : Options) : ExceptT Failure m Settings := do
  let layer ← host.fileSettings o
  let timeout ← orFail id (pure o.readTimeout)
  return layer.merge (o.settings timeout)

def buildVersion (o : Options) : ExceptT Failure m BuildVersion := do
  match o.buildVersion with
  | some text => return ⟨Text.trim text⟩
  | none => return (← orFail .version (Revision.ask o.repoPath (host.git o.repoPath))).buildVersion

def pattern (s : Settings) : ExceptT Failure m VersionPattern :=
  orFail .pattern do
    return VersionPattern.ofParsed s.patternSource (← host.parsePattern s.patternSource)

def readPage (page : Path) : ExceptT Failure m String :=
  if page.isInput then orFail .input host.readInput
  else orFail (.page page) (host.readText page)

def site (url : String) (page : Option Path) (timeout : Option Duration) :
    ExceptT Failure m Site := do
  match page with
  | some page => return .canned url (← host.readPage page)
  | none => return .fetched url (← host.fetch url timeout)

def reportAll : List Event → m Unit
  | [] => return
  | e :: events => do
    host.report e
    reportAll events

def printAll : List String → m Unit
  | [] => return
  | line :: lines => do
    host.print line
    printAll lines

def printDecision (d : Decision) (key : String) : ReportFormat → m Unit
  | .text => host.printAll (d.message :: d.outputLines key)
  | .json => do host.print (d.reportText (← host.now))

def check (o : Options) (c : CheckOptions) (s : Settings) : ExceptT Failure m Unit := do
  let build ← host.buildVersion o
  let url := o.siteUrl s.docsSite build
  let pattern ← host.pattern s
  let site ← host.site url c.page s.timeout
  let (d, events) := Gate.evaluate { site, pattern, compare := s.compareMode } build
  host.reportAll events
  let key := c.key s
  host.printDecision d key (c.format.getD .text)
  match c.file s with
  | none => return
  | some file =>
    orFail .output (host.appendDecision file key d)
    host.report ⟨.info, "decision written to " ++ file.text⟩

def scan (page : Path) (s : Settings) : ExceptT Failure m Unit := do
  let pattern ← host.pattern s
  let versions := pattern.scan (← host.readPage page)
  if versions.isEmpty then
    host.report ⟨.warn, "no version found in " ++ page.text⟩
  host.printAll versions

def perform (c : Command) : ExceptT Failure m Unit := do
  let s ← host.settings c.options
  match c.action with
  | .check o => host.check c.options o s
  | .version =>
    let build ← host.buildVersion c.options
    host.printAll ["version: " ++ build.text, "stable: " ++ Decision.flag build.isStable]
  | .url =>
    let build ← host.buildVersion c.options
    host.print (c.options.siteUrl s.docsSite build)
  | .scan page => host.scan page s

/-- Carries out a command. The exit code is 0, or 1 after a failure, which is reported. -/
def execute (c : Command) : m Nat := do
  match ← (host.perform c).run with
  | .ok () => return 0
  | .error failure =>
    host.report ⟨.error, failure.message⟩
    return 1

end Host

end PublishGate
