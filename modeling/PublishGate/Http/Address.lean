import PublishGate.Http.Authority

/-! # Addresses of pages -/

namespace PublishGate

/-- The address of a page: scheme, host with its number unless that is the usual one, and a path that
begins with a slash, with the query if there is one. -/
structure Address where
  scheme : List Char
  host : List Char
  path : List Char
  deriving DecidableEq, Repr

namespace Address

def text (a : Address) : String :=
  String.ofList (a.scheme ++ [':', '/', '/'] ++ a.host ++ a.path)

def percent (b : UInt8) : List Char :=
  ['%', Text.upperHex (b.toNat / 16), Text.upperHex (b.toNat % 16)]

def isUnfit (c : Char) : Bool :=
  decide (c.toNat ≤ 0x20) || decide (0x7F ≤ c.toNat) || ['"', '<', '>'].contains c ||
    ['\x60', '\x7b', '\x7d', '^'].contains c

def encoded (s : List Char) : List Char :=
  s.flatMap fun c => if isUnfit c then (String.utf8EncodeChar c).flatMap percent else [c]

/-- The parts of a path with those dropped that a double point takes back, and the points. A point at
the end leaves a slash. -/
def settled : List (List Char) → List (List Char) → List (List Char)
  | done, [] => done
  | done, part :: parts =>
    if part = ['.', '.'] then
      settled (if parts.isEmpty then done.dropLast ++ [[]] else done.dropLast) parts
    else if part = ['.'] then settled (if parts.isEmpty then done ++ [[]] else done) parts
    else settled (done ++ [part]) parts

/-- A path with its query in the form that is sent. The fragment is not sent. -/
def normalPath (s : List Char) : List Char :=
  let s := s.takeWhile (· != '#')
  let parts := settled [] (((s.takeWhile (· != '?')).drop 1).splitOn '/')
  encoded (parts.flatMap ('/' :: ·) ++ s.dropWhile (· != '?'))

def isSchemeChar (c : Char) : Bool :=
  c.isAlphanum || c == '+' || c == '-' || c == '.'

def scheme? (s : List Char) : Option (List Char × List Char) :=
  match s.takeWhile isSchemeChar, s.dropWhile isSchemeChar with
  | c :: name, ':' :: rest => if c.isAlpha then some ((c :: name).map Char.toLower, rest) else none
  | _, _ => none

def isSlash (c : Char) : Bool :=
  c == '/' || c == '\\'

def usualSocket (scheme : List Char) : Nat :=
  if scheme = ['h', 't', 't', 'p'] then 80 else 443

def rooted (s : List Char) : List Char :=
  match s with
  | '/' :: _ => s
  | '\\' :: s => '/' :: s
  | s => '/' :: s

def read (url : String) : Except AddressError Address :=
  let s := url.toList.filter fun c => c != '\t' && c != '\n' && c != '\r'
  let s := ((s.dropWhile (·.toNat ≤ 0x20)).reverse.dropWhile (·.toNat ≤ 0x20)).reverse
  match scheme? s with
  | none => .error .relative
  | some (scheme, rest) =>
    if scheme = ['h', 't', 't', 'p'] ∨ scheme = ['h', 't', 't', 'p', 's'] then do
      let rest := rest.dropWhile isSlash
      let ends := fun c => isSlash c || c == '?' || c == '#'
      let host ← Authority.read (usualSocket scheme) (rest.takeWhile (!ends ·))
      return ⟨scheme, host, normalPath (rooted (rest.dropWhile (!ends ·)))⟩
    else .error (.scheme (String.ofList (scheme ++ ':' :: rest)))

def refer (a : Address) (reference : String) : Except AddressError Address :=
  let s := reference.toList
  match scheme? s with
  | some _ => read reference
  | none =>
    match s with
    | '/' :: '/' :: rest => read (String.ofList (a.scheme ++ [':', '/', '/'] ++ rest))
    | '/' :: _ => .ok { a with path := normalPath s }
    | '?' :: _ => .ok { a with path := a.path.takeWhile (· != '?') ++ encoded s }
    | [] => .ok a
    | _ =>
      let folder := ((a.path.takeWhile (· != '?')).reverse.dropWhile (· != '/')).reverse
      .ok { a with path := normalPath (folder ++ s) }

end Address

end PublishGate
