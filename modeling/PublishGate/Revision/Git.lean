import PublishGate.FileError
import PublishGate.Path
import PublishGate.Revision
import PublishGate.Text.Blank
import PublishGate.Text.Utf8

/-! # Asking git about a working tree -/

namespace PublishGate

inductive GitQuery where
  | inside
  | head
  | status
  | describe
  deriving DecidableEq, Repr

namespace GitQuery

def arguments : GitQuery → List String
  | inside => ["rev-parse", "--is-inside-work-tree"]
  | head => ["rev-parse", "--short=7", "HEAD"]
  | status => ["status", "--porcelain"]
  | describe => ["describe", "--tags", "--long", "--abbrev=7"]

def commandLine (q : GitQuery) : String :=
  " ".intercalate q.arguments

def title : GitQuery → String
  | inside => "git rev-parse"
  | head => "git rev-parse"
  | status => "git status"
  | describe => "git describe"

end GitQuery

structure GitReply where
  code : Nat
  stdout : List UInt8
  stderr : List UInt8
  deriving DecidableEq, Repr

namespace GitReply

def succeeded (r : GitReply) : Bool :=
  r.code == 0

def text (r : GitReply) : String :=
  Text.trim (Text.decodeLossy r.stdout)

def complaint (r : GitReply) : String :=
  Text.trim (Text.decodeLossy r.stderr)

end GitReply

inductive GitError where
  | notRepository (dir : Path)
  | notRun (query : GitQuery) (cause : FileError)
  | failed (query : GitQuery) (complaint : String)
  deriving DecidableEq, Repr

def GitError.message : GitError → String
  | .notRepository dir => "not a git repository: " ++ dir.text
  | .notRun query cause => "failed to run " ++ query.title ++ ": " ++ cause.message
  | .failed .head complaint =>
    "git rev-parse failed (does the repository have any commits?): " ++ complaint
  | .failed query complaint => query.title ++ " failed: " ++ complaint

abbrev GitAnswer := Except FileError GitReply

namespace GitAnswer

def isRepository : GitAnswer → Bool
  | .ok r => r.succeeded
  | .error _ => false

def reply (query : GitQuery) : GitAnswer → Except GitError GitReply
  | .ok r => if r.succeeded then .ok r else .error (.failed query r.complaint)
  | .error e => .error (.notRun query e)

def commit (answer : GitAnswer) : Except GitError String :=
  (reply .head answer).map (·.text)

/-- A tree is clean when its status is empty; files that git does not know count as changes. -/
def isClean (answer : GitAnswer) : Except GitError Bool :=
  (reply .status answer).map (·.stdout.isEmpty)

/-- The description by the nearest tag. That there is none, or none that can be read, is no fault. -/
def described : GitAnswer → Except GitError (Option Describe)
  | .ok r => .ok (if r.succeeded then Describe.parse? (Text.decodeLossy r.stdout) else none)
  | .error e => .error (.notRun .describe e)

end GitAnswer

/-- The state of a working tree, by asking in a fixed order until the outcome is clear. -/
def Revision.ask {m : Type → Type} [Monad m] (dir : Path) (git : GitQuery → m GitAnswer) :
    m (Except GitError Revision) := do
  if !(← git .inside).isRepository then return .error (.notRepository dir)
  match (← git .head).commit with
  | .error e => return .error e
  | .ok commit =>
    match (← git .status).isClean with
    | .error e => return .error e
    | .ok clean =>
      match (← git .describe).described with
      | .error e => return .error e
      | .ok described => return .ok (.ofDescribe described commit (!clean))

end PublishGate
