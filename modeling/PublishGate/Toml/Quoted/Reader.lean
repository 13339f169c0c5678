import PublishGate.Text.Hex

/-! # Reading the strings of TOML -/

namespace PublishGate.Toml.Quoted

def isPlain (c : Char) : Bool :=
  c == '\t' || (decide (0x20 ≤ c.toNat) && c.toNat != 0x7F)

def atLineBreak : List Char → Bool
  | '\n' :: _ => true
  | '\r' :: '\n' :: _ => true
  | _ => false

def dropLineBreak : List Char → List Char
  | '\n' :: s => s
  | '\r' :: '\n' :: s => s
  | s => s

def escape? (c : Char) : Option Char :=
  match c with
  | 'b' => some '\x08'
  | 't' => some '\t'
  | 'n' => some '\n'
  | 'f' => some '\x0C'
  | 'r' => some '\r'
  | 'e' => some '\x1B'
  | '"' => some '"'
  | '\\' => some '\\'
  | _ => none

def hexWidth? (c : Char) : Option Nat :=
  match c with
  | 'x' => some 2
  | 'u' => some 4
  | 'U' => some 8
  | _ => none

def quoteRun (q : Char) (s : List Char) : Nat :=
  ((s.take 5).takeWhile (· == q)).length

/-- Where a reader of a basic string is: in its text, behind a backslash, in the digits of a code
point, or in the gap that a backslash at the end of a line makes, before or after its first line
break. -/
inductive Spot where
  | text
  | escaped
  | digits (left value : Nat)
  | gap (broken : Bool)
  deriving DecidableEq, Repr

def atGap (s : List Char) : Bool :=
  s.head? == some ' ' || s.head? == some '\t' || atLineBreak s

/-- Where the reader is next inside or behind a gap. A gap goes as far as it can, and without a line
break it is a fault. -/
def pastGap? (broken : Bool) (s : List Char) : Option Spot :=
  if atGap s then some (.gap broken) else if broken then some .text else none

def put (c : Char) (tail : Option (List Char × List Char)) : Option (List Char × List Char) :=
  tail.map fun (text, rest) => (c :: text, rest)

/-- The rest of a basic string, and what follows its closing quotes. On several lines it ends at
three quotes, before which up to two belong to the text. -/
def basic (multi : Bool) : Spot → List Char → Option (List Char × List Char)
  | _, [] => none
  | .text, c :: s =>
    if c = '"' then
      if !multi then some ([], s)
      else
        let run := quoteRun '"' (c :: s)
        if run < 3 then put c (basic multi .text s)
        else some (List.replicate (run - 3) '"', (c :: s).drop run)
    else if c = '\\' then basic multi .escaped s
    else if isPlain c || (multi && atLineBreak (c :: s)) then put c (basic multi .text s)
    else none
  | .escaped, c :: s =>
    match hexWidth? c with
    | some n => basic multi (.digits n 0) s
    | none =>
      match escape? c with
      | some d => put d (basic multi .text s)
      | none =>
        if multi && atGap (c :: s) then
          match pastGap? (c == '\n') s with
          | some spot => basic multi spot s
          | none => none
        else none
  | .digits left value, c :: s =>
    match Text.hexValue? c with
    | none => none
    | some d =>
      if 1 < left then basic multi (.digits (left - 1) (16 * value + d)) s
      else
        match Text.scalar? (16 * value + d) with
        | some c => put c (basic multi .text s)
        | none => none
  | .gap broken, c :: s =>
    match pastGap? (broken || c == '\n') s with
    | some spot => basic multi spot s
    | none => none

def literal (multi : Bool) : List Char → Option (List Char × List Char)
  | [] => none
  | c :: s =>
    if c = '\'' then
      if !multi then some ([], s)
      else
        let run := quoteRun '\'' (c :: s)
        if run < 3 then put c (literal multi s)
        else some (List.replicate (run - 3) '\'', (c :: s).drop run)
    else if isPlain c || (multi && atLineBreak (c :: s)) then put c (literal multi s)
    else none

def line? : List Char → Option (String × List Char)
  | '"' :: s => (basic false .text s).map fun (text, rest) => (String.ofList text, rest)
  | '\'' :: s => (literal false s).map fun (text, rest) => (String.ofList text, rest)
  | _ => none

/-- A string at the front. Three quotes open one of several lines, and a line break right behind
them is no part of it. -/
def read? : List Char → Option (String × List Char)
  | '"' :: '"' :: '"' :: s =>
    (basic true .text (dropLineBreak s)).map fun (text, rest) => (String.ofList text, rest)
  | '\'' :: '\'' :: '\'' :: s =>
    (literal true (dropLineBreak s)).map fun (text, rest) => (String.ofList text, rest)
  | s => line? s

end PublishGate.Toml.Quoted
