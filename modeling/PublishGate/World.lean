import PublishGate.FileTree
import PublishGate.Http.Exchange
import PublishGate.Program

/-! # Surroundings as a value -/

namespace PublishGate

/-- Surroundings that are known in full, and what has happened to them: lines printed, messages
reported, questions to git and requests to the server, each in order. Without a table of replies there
is no git. With a fault for it the working directory cannot be told, as when it has been removed.
Patterns are read by the dialect. -/
structure World where
  tree : FileTree
  cwd : Place
  input : List UInt8
  git : Option (GitQuery → GitReply)
  server : Http.Server
  clock : Instant
  cwdFault : Option FileError := none
  dialect : Pattern.Dialect := .standard
  printed : List String := []
  reported : List Event := []
  asked : List GitQuery := []
  requested : List Http.Request := []

def Path.ofPlace (place : Place) : Path :=
  ⟨"/" ++ "/".intercalate place⟩

namespace World

def workingDirectory (w : World) : Except FileError Path :=
  match w.cwdFault with
  | some cause => .error cause
  | none => .ok (.ofPlace w.cwd)

/-- Asks git in a directory. It can be run where there is such a program and such a directory. -/
def ask (w : World) (dir : Path) (query : GitQuery) : GitAnswer × World :=
  match w.tree.find w.cwd dir with
  | .error e => (.error e, w)
  | .ok (_, node) =>
    if node ≠ .directory then (.error .notDirectory, w)
    else match w.git with
      | none => (.error .notFound, w)
      | some table => (.ok (table query), { w with asked := w.asked ++ [query] })

def makeDirectories (w : World) (p : Path) : Except FileError Unit × World :=
  let (result, tree) := w.tree.makeDirectories w.cwd p
  (result, { w with tree })

def append (w : World) (p : Path) (text : String) : Except AppendError Unit × World :=
  let (result, tree) := w.tree.append w.cwd p (Text.encode text)
  (result, { w with tree })

/-- Fetches a page from the server. Nothing takes any time, so that no timeout expires. -/
def fetch (w : World) (url : String) : HttpOutcome × World :=
  let (outcome, requests, server) := w.server.fetch url
  (outcome, { w with server, requested := w.requested ++ requests })

def host : Host (StateM World) where
  workingDirectory := fun w => (w.workingDirectory, w)
  present p := fun w => (w.tree.present w.cwd p, w)
  readText p := fun w => (w.tree.readText w.cwd p, w)
  readInput := fun w => (FileTree.textOf w.input, w)
  makeDirectories p := fun w => w.makeDirectories p
  append p text := fun w => w.append p text
  git dir query := fun w => w.ask dir query
  fetch url _ := fun w => w.fetch url
  now := fun w => (w.clock, w)
  parsePattern source := fun w => (w.dialect.read source, w)
  print line := fun w => ((), { w with printed := w.printed ++ [line] })
  report e := fun w => ((), { w with reported := w.reported ++ [e] })

end World

end PublishGate
