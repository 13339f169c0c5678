import PublishGate.Decision
import PublishGate.FileError
import PublishGate.Gate
import PublishGate.Http
import PublishGate.Instant
import PublishGate.Path
import PublishGate.Revision.Git
import PublishGate.Settings.Layout

/-! # What the program needs from its surroundings -/

namespace PublishGate

/-- The surroundings of the program: files, standard input and output, git, the network, a clock, and
what patterns mean. -/
structure Host (m : Type → Type) where
  workingDirectory : m (Except FileError Path)
  present : Path → m Bool
  readText : Path → m (Except FileError String)
  readInput : m (Except FileError String)
  makeDirectories : Path → m (Except FileError Unit)
  append : Path → String → m (Except AppendError Unit)
  git : Path → GitQuery → m GitAnswer
  fetch : String → Option Duration → m HttpOutcome
  now : m Instant
  parsePattern : String → m (Except String Pattern.Expr)
  print : String → m Unit
  report : Event → m Unit

inductive OutputError where
  | directory (dir : Path) (cause : FileError)
  | opening (file : Path) (cause : FileError)
  | writing (file : Path) (cause : FileError)
  deriving DecidableEq, Repr

def OutputError.message : OutputError → String
  | .directory dir cause =>
    "failed to create output directory: " ++ dir.text ++ ": " ++ cause.message
  | .opening file cause => "failed to open output file: " ++ file.text ++ ": " ++ cause.message
  | .writing file cause => "failed to write output file: " ++ file.text ++ ": " ++ cause.message

def Decision.outputText (d : Decision) (key : String) : String :=
  String.join ((d.outputLines key).map (· ++ "\n"))

/-- The directory to make before a file is written: the parent, unless it is the one that the
program is in. -/
def Path.outputDirectory? (file : Path) : Option Path :=
  file.parent?.filter (·.text ≠ "")

inductive SettingsError where
  | unreadable (file : Path) (cause : FileError)
  | malformed (file : Path)
  deriving DecidableEq, Repr

def SettingsError.message : SettingsError → String
  | .unreadable file cause =>
    "failed to read config file: " ++ file.text ++ ": " ++ cause.message
  | .malformed file => "failed to parse config file: " ++ file.text ++ ": TOML parse error"

/-- The settings in a file with the given content. A relative output file is taken as seen from the
directory of that file. -/
def Settings.ofContent (file : Path) : Except FileError String → Except SettingsError Settings
  | .error cause => .error (.unreadable file cause)
  | .ok text =>
    match Settings.ofToml? text with
    | none => .error (.malformed file)
    | some s => .ok (match file.parent? with
      | some dir => s.anchored dir
      | none => s)

def Settings.fileName : Path := ⟨".docgate.toml"⟩

def Settings.fileIn (dir : Path) : Path :=
  dir.join fileName

namespace Host

variable {m : Type → Type} [Monad m] (host : Host m)

/-- The settings in a file; a file that is not there sets nothing. -/
def loadSettings (file : Path) : m (Except SettingsError Settings) := do
  if ← host.present file then return Settings.ofContent file (← host.readText file)
  else return .ok {}

def firstPresent : List Path → m (Option Path)
  | [] => return none
  | p :: ps => do if ← host.present p then return some p else firstPresent ps

def findSettings (dir : Path) : m (Option Path) :=
  host.firstPresent (dir.ancestors.map Settings.fileIn)

def appendDecision (file : Path) (key : String) (d : Decision) : m (Except OutputError Unit) := do
  if let some dir := file.outputDirectory? then
    if let .error cause ← host.makeDirectories dir then return .error (.directory dir cause)
  match ← host.append file (d.outputText key) with
  | .ok () => return .ok ()
  | .error (.opening cause) => return .error (.opening file cause)
  | .error (.writing cause) => return .error (.writing file cause)

end Host

end PublishGate
