import PublishGate.FileError
import PublishGate.Path
import PublishGate.Text.Utf8

/-! # A tree of files and directories -/

namespace PublishGate

abbrev Place := List String

/-- What there is at a place. The devices take all that is written to them, or none of it. -/
inductive Node where
  | directory
  | file (content : List UInt8)
  | sink
  | full
  deriving DecidableEq, Repr

/-- The nodes of a file system by their places. The root is always a directory. -/
structure FileTree where
  nodes : List (Place × Node)
  deriving DecidableEq, Repr

def Path.base (cwd : Place) (p : Path) : Place :=
  if p.isAbsolute then [] else cwd

def Path.names (p : Path) : List String :=
  ((p.text.toList.splitOn '/').filter (!·.isEmpty)).map String.ofList

def Path.endsInSlash (p : Path) : Bool :=
  p.text.toList.getLast? == some '/'

/-- A path that no file system takes: the empty one, and one with a NUL in it. -/
def Path.fault? (p : Path) : Option FileError :=
  if p.text = "" then some .notFound
  else if p.text.toList.contains '\x00' then some .nulByte
  else none

namespace FileTree

def get? (t : FileTree) (place : Place) : Option Node :=
  if place = [] then some .directory
  else (t.nodes.find? (·.1 = place)).map (·.2)

def put (t : FileTree) (place : Place) (node : Node) : FileTree :=
  ⟨(place, node) :: t.nodes.filter (·.1 ≠ place)⟩

def directory (t : FileTree) (place : Place) : Except FileError Unit :=
  match t.get? place with
  | some .directory => .ok ()
  | some _ => .error .notDirectory
  | none => .error .notFound

def nameLimit : Nat := 255

/-- The place that names lead to from another one. All but the last must be directories; whether
there is anything at the last is left open. -/
def follow (t : FileTree) : Place → List String → Except FileError Place
  | place, [] => .ok place
  | place, name :: names =>
    match t.directory place with
    | .error e => .error e
    | .ok () =>
      if name = "." then t.follow place names
      else if name = ".." then t.follow place.dropLast names
      else if nameLimit < name.utf8ByteSize then .error .nameTooLong
      else t.follow (place ++ [name]) names

/-- The node that a path leads to, with its place. Behind a final slash there must be a directory. -/
def find (t : FileTree) (cwd : Place) (p : Path) : Except FileError (Place × Node) :=
  match p.fault? with
  | some e => .error e
  | none =>
    match t.follow (p.base cwd) p.names with
    | .error e => .error e
    | .ok place =>
      match t.get? place with
      | none => .error .notFound
      | some node =>
        if p.endsInSlash && node != .directory then .error .notDirectory else .ok (place, node)

def present (t : FileTree) (cwd : Place) (p : Path) : Bool :=
  match t.find cwd p with
  | .ok _ => true
  | .error _ => false

def isDirectory (t : FileTree) (cwd : Place) (p : Path) : Bool :=
  match t.find cwd p with
  | .ok (_, .directory) => true
  | _ => false

def readBytes (t : FileTree) (cwd : Place) (p : Path) : Except FileError (List UInt8) :=
  match t.find cwd p with
  | .error e => .error e
  | .ok (_, .directory) => .error .isDirectory
  | .ok (_, .file content) => .ok content
  | .ok _ => .ok []

def textOf (bytes : List UInt8) : Except FileError String :=
  match Text.decode? bytes with
  | some text => .ok text
  | none => .error .notUtf8

def readText (t : FileTree) (cwd : Place) (p : Path) : Except FileError String :=
  (t.readBytes cwd p).bind textOf

/-- The directory that holds the end of a path, and the name there. A path that ends in the root, a
point or a double point has no name for a new node. -/
def entry (t : FileTree) (cwd : Place) (p : Path) : Except FileError (Place × Option String) :=
  match p.fault? with
  | some e => .error e
  | none =>
    match t.follow (p.base cwd) p.names.dropLast with
    | .error e => .error e
    | .ok place =>
      match t.directory place with
      | .error e => .error e
      | .ok () =>
        match p.names.getLast? with
        | none => .ok (place, none)
        | some name =>
          if name = "." ∨ name = ".." then .ok (place, none)
          else if nameLimit < name.utf8ByteSize then .error .nameTooLong
          else .ok (place, some name)

def makeDirectory (t : FileTree) (cwd : Place) (p : Path) : Except FileError FileTree :=
  match t.entry cwd p with
  | .error e => .error e
  | .ok (_, none) => .error .alreadyExists
  | .ok (place, some name) =>
    match t.get? (place ++ [name]) with
    | some _ => .error .alreadyExists
    | none => .ok (t.put (place ++ [name]) .directory)

/-- Makes the first directory of a list after those behind it, as far as they are missing. Those that
are made before a fault stay. -/
def makeEach (cwd : Place) : List Path → FileTree → Except FileError Unit × FileTree
  | [], t => (.error .notFound, t)
  | p :: above, t =>
    if p.text = "" then (.ok (), t)
    else
      match t.makeDirectory cwd p with
      | .ok t => (.ok (), t)
      | .error .notFound =>
        match makeEach cwd above t with
        | (.error e, t) => (.error e, t)
        | (.ok (), t) =>
          match t.makeDirectory cwd p with
          | .ok t => (.ok (), t)
          | .error e => if t.isDirectory cwd p then (.ok (), t) else (.error e, t)
      | .error e => if t.isDirectory cwd p then (.ok (), t) else (.error e, t)

def makeDirectories (t : FileTree) (cwd : Place) (p : Path) : Except FileError Unit × FileTree :=
  makeEach cwd p.ancestors t

def openFile (t : FileTree) (cwd : Place) (p : Path) : Except FileError (Place × FileTree) :=
  match t.entry cwd p with
  | .error e => .error e
  | .ok (_, none) => .error .isDirectory
  | .ok (place, some name) =>
    if p.endsInSlash then .error .isDirectory
    else
      match t.get? (place ++ [name]) with
      | some .directory => .error .isDirectory
      | some _ => .ok (place ++ [name], t)
      | none => .ok (place ++ [name], t.put (place ++ [name]) (.file []))

def append (t : FileTree) (cwd : Place) (p : Path) (bytes : List UInt8) :
    Except AppendError Unit × FileTree :=
  match t.openFile cwd p with
  | .error e => (.error (.opening e), t)
  | .ok (place, t) =>
    match t.get? place with
    | some (.file content) => (.ok (), t.put place (.file (content ++ bytes)))
    | some .sink => (.ok (), t)
    | _ => (.error (.writing .noSpace), t)

end FileTree

end PublishGate
