/-! # Paths of files -/

namespace PublishGate

/-- The path of a file or directory, with slashes between its parts. Nothing about it is normalised:
two texts may name the same place. -/
structure Path where
  text : String
  deriving DecidableEq, Repr

namespace Path

def isAbsolute (p : Path) : Bool :=
  p.text.toList.head? == some '/'

/-- The path `p` as seen from the directory `base`. An absolute one stands for itself, any other is
put behind the base with one slash between them, which a base that is empty or ends in a slash does
not need. -/
def join (base p : Path) : Path :=
  if p.isAbsolute then p
  else match base.text.toList.getLast? with
    | none => p
    | some '/' => ⟨base.text ++ p.text⟩
    | some _ => ⟨base.text ++ "/" ++ p.text⟩

/-- The text split into its start and what follows. The start is the root, or a point that stands
for the directory one is in; both count as parts of their own, points further on do not. -/
def start (s : List Char) : List Char × List Char :=
  match s with
  | '/' :: s => (['/'], s)
  | ['.'] => (['.'], [])
  | '.' :: '/' :: s => (['.'], '/' :: s)
  | s => ([], s)

def isIdle (part : List Char) : Bool :=
  part.isEmpty || part == ['.']

def dropIdle (parts : List (List Char)) : List (List Char) :=
  (parts.reverse.dropWhile isIdle).reverse

/-- The parts that say something, in order, behind the start if it is not empty. Paths with the same
components are equal as paths. -/
def components (p : Path) : List (List Char) :=
  let (front, body) := start p.text.toList
  (if front.isEmpty then [] else [front]) ++
    (body.splitOn '/').filter (!isIdle ·)

/-- The path without its last component. The root and the empty path have none. -/
def parent? (p : Path) : Option Path :=
  let (front, body) := start p.text.toList
  match dropIdle (body.splitOn '/') with
  | [] => if front = ['.'] then some ⟨""⟩ else none
  | parts => some ⟨String.ofList (front ++ ['/'].intercalate (dropIdle parts.dropLast))⟩

def ancestorsWithin : Nat → Path → List Path
  | 0, p => [p]
  | n + 1, p =>
    p :: match p.parent? with
      | some q => ancestorsWithin n q
      | none => []

/-- The path and all paths above it, the nearest first. A parent is a shorter text, so the length of
the text bounds their number. -/
def ancestors (p : Path) : List Path :=
  ancestorsWithin p.text.length p

end Path

end PublishGate
