import PublishGate.Toml.Literal
import PublishGate.Toml.Quoted.Reader
import PublishGate.Toml.Value

/-! # Reading TOML documents -/

namespace PublishGate.Toml

def isBare (c : Char) : Bool :=
  c.isAlphanum || c == '_' || c == '-'

def isSpace (c : Char) : Bool :=
  c == ' ' || c == '\t'

def skipSpace (s : List Char) : List Char :=
  s.dropWhile isSpace

def skipComment : List Char → Option (List Char)
  | [] => some []
  | c :: s =>
    if Quoted.atLineBreak (c :: s) then some (c :: s)
    else if Quoted.isPlain c then skipComment s
    else none

def skipGap : Bool → List Char → Option (List Char)
  | _, [] => some []
  | comment, c :: s =>
    if Quoted.atLineBreak (c :: s) then skipGap (comment && c != '\n') s
    else if comment then if Quoted.isPlain c then skipGap true s else none
    else if isSpace c then skipGap false s
    else if c = '#' then skipGap true s
    else some (c :: s)

def keyPart? (s : List Char) : Option (String × List Char) :=
  match s.takeWhile isBare with
  | [] => Quoted.line? s
  | name => some (String.ofList name, s.dropWhile isBare)

/-- A key: parts with points between them, blanks around each. The count bounds the number of parts;
the length of the text is always enough. -/
def key? : Nat → List Char → Option (List String × List Char)
  | 0, _ => none
  | n + 1, s =>
    match keyPart? (skipSpace s) with
    | none => none
    | some (name, rest) =>
      match skipSpace rest with
      | '.' :: rest => (key? n rest).map fun (path, rest) => (name :: path, rest)
      | rest => some ([name], rest)

abbrev ValueReader := List Char → Option (Value × List Char)

/-- The rest of an array after an opening bracket or a comma. The count bounds the number of items; the
length of the text is always enough. -/
def items? (value : ValueReader) : Nat → List Char → Option (List Value × List Char)
  | 0, _ => none
  | n + 1, s =>
    match skipGap false s with
    | none => none
    | some (']' :: rest) => some ([], rest)
    | some s =>
      match value s with
      | none => none
      | some (v, rest) =>
        match skipGap false rest with
        | some (']' :: rest) => some ([v], rest)
        | some (',' :: rest) => (items? value n rest).map fun (vs, rest) => (v :: vs, rest)
        | _ => none

def pair? (value : ValueReader) (s : List Char) : Option ((List String × Value) × List Char) :=
  match key? (s.length + 1) s with
  | some (path, '=' :: rest) => (value (skipSpace rest)).map fun (v, rest) => ((path, v), rest)
  | _ => none

def pairs? (value : ValueReader) :
    Nat → List Char → Option (List (List String × Value) × List Char)
  | 0, _ => none
  | n + 1, s =>
    match skipGap false s with
    | none => none
    | some ('\x7d' :: rest) => some ([], rest)
    | some s =>
      match pair? value s with
      | none => none
      | some (p, rest) =>
        match skipGap false rest with
        | some ('\x7d' :: rest) => some ([p], rest)
        | some (',' :: rest) => (pairs? value n rest).map fun (ps, rest) => (p :: ps, rest)
        | _ => none

def inlineTable? (pairs : List (List String × Value)) : Option Value :=
  (pairs.foldlM (fun fields (path, v) => Fields.define? path v fields) []).map (.table .inline)

def plainValue? (s : List Char) : Option Value :=
  if s = ['t', 'r', 'u', 'e'] then some (.bool true)
  else if s = ['f', 'a', 'l', 's', 'e'] then some (.bool false)
  else if Literal.isLiteral s then some (.literal (String.ofList s))
  else none

/-- A value at the front. The count bounds the nesting of arrays and inline tables. -/
def value? : Nat → ValueReader
  | depth, s =>
    match s with
    | '[' :: rest =>
      match depth with
      | 0 => none
      | depth + 1 =>
        (items? (value? depth) (rest.length + 1) rest).map fun (vs, rest) => (.array vs, rest)
    | '\x7b' :: rest =>
      match depth with
      | 0 => none
      | depth + 1 =>
        match pairs? (value? depth) (rest.length + 1) rest with
        | some (pairs, rest) => (inlineTable? pairs).map (·, rest)
        | none => none
    | s =>
      match Quoted.read? s with
      | some (text, rest) => some (.string text, rest)
      | none =>
        let (front, rest) := Literal.run s
        (plainValue? front).map (·, rest)

def nestLimit : Nat := 80

def statement? (s : List Char) : Option (Statement × List Char) :=
  match s with
  | '[' :: '[' :: rest =>
    match key? (rest.length + 1) rest with
    | some (path, ']' :: ']' :: rest) => some (.element path, rest)
    | _ => none
  | '[' :: rest =>
    match key? (rest.length + 1) rest with
    | some (path, ']' :: rest) => some (.table path, rest)
    | _ => none
  | s => (pair? (value? nestLimit) s).map fun ((path, v), rest) => (.pair path v, rest)

def lineEnd? (s : List Char) : Option (List Char) :=
  let ended := match skipSpace s with
    | '#' :: rest => skipComment rest
    | rest => some rest
  match ended with
  | none => none
  | some [] => some []
  | some s => if Quoted.atLineBreak s then some (Quoted.dropLineBreak s) else none

/-- The statements of a text, each on a line of its own. The count bounds their number; the length of
the text is always enough. -/
def statements? : Nat → List Char → Option (List Statement)
  | 0, _ => none
  | n + 1, s =>
    match skipGap false s with
    | none => none
    | some [] => some []
    | some s =>
      match statement? s with
      | none => none
      | some (first, rest) =>
        match lineEnd? rest with
        | none => none
        | some rest => (statements? n rest).map (first :: ·)

/-- Reads a document. A byte order mark in front is no part of it. -/
def Fields.read? (s : String) : Option Fields :=
  let text := match s.toList with
    | '\uFEFF' :: rest => rest
    | text => text
  (statements? (text.length + 1) text).bind Fields.ofStatements?

end PublishGate.Toml
