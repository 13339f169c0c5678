import PublishGate.Json.Value
import PublishGate.Text.Decimal
import PublishGate.Text.Hex

/-! # Reading JSON -/

namespace PublishGate.Json

def isGap (c : Char) : Bool :=
  c = ' ' || c = '\n' || c = '\t' || c = '\r'

def skipGap (s : List Char) : List Char :=
  s.dropWhile isGap

def hexNumber? (ds : List Char) : Option Nat :=
  (ds.mapM Text.hexValue?).map Text.hexNumber

def shortEscape? (c : Char) : Option Char :=
  match c with
  | '"' => some '"'
  | '\\' => some '\\'
  | '/' => some '/'
  | 'b' => some '\x08'
  | 'f' => some '\x0C'
  | 'n' => some '\n'
  | 'r' => some '\r'
  | 't' => some '\t'
  | _ => none

/-- The code points of a string up to its closing quote, behind those already read, latest first. An
escape may give half of a surrogate pair. -/
def stringTail (read : List Nat) : List Char → Option (List Nat × List Char)
  | [] => none
  | '"' :: rest => some (read.reverse, rest)
  | '\\' :: 'u' :: a :: b :: c :: d :: rest =>
    match hexNumber? [a, b, c, d] with
    | some n => stringTail (n :: read) rest
    | none => none
  | '\\' :: e :: rest =>
    match shortEscape? e with
    | some c => stringTail (c.toNat :: read) rest
    | none => none
  | c :: rest =>
    if c.toNat < 0x20 ∨ c = '\\' then none else stringTail (c.toNat :: read) rest

def isHighSurrogate (n : Nat) : Bool :=
  decide (0xD800 ≤ n) && decide (n ≤ 0xDBFF)

def isLowSurrogate (n : Nat) : Bool :=
  decide (0xDC00 ≤ n) && decide (n ≤ 0xDFFF)

def scalars? : List Nat → Option (List Char)
  | [] => some []
  | [n] => if isHighSurrogate n || isLowSurrogate n then none else some [Char.ofNat n]
  | n :: m :: rest =>
    if isHighSurrogate n then
      if isLowSurrogate m then
        (scalars? rest).map (Char.ofNat (0x10000 + (n - 0xD800) * 0x400 + (m - 0xDC00)) :: ·)
      else none
    else if isLowSurrogate n then none
    else (scalars? (m :: rest)).map (Char.ofNat n :: ·)

def digitRun? (s : List Char) : Option (List Char × List Char) :=
  if (s.takeWhile Char.isDigit).isEmpty then none
  else some (s.takeWhile Char.isDigit, s.dropWhile Char.isDigit)

def sign (marks : List Char) (s : List Char) : List Char × List Char :=
  match s with
  | c :: rest => if marks.contains c then ([c], rest) else ([], s)
  | [] => ([], [])

def wholePart? (s : List Char) : Option (List Char × List Char) :=
  match digitRun? s with
  | some (['0'], rest) => some (['0'], rest)
  | some ('0' :: _, _) => none
  | run => run

def fractionPart? (s : List Char) : Option (List Char × List Char) :=
  match s with
  | '.' :: rest => (digitRun? rest).map fun (ds, rest) => ('.' :: ds, rest)
  | s => some ([], s)

def exponentPart? (s : List Char) : Option (List Char × List Char) :=
  match s with
  | c :: rest =>
    if c = 'e' ∨ c = 'E' then
      let (mark, rest) := sign ['+', '-'] rest
      (digitRun? rest).map fun (ds, rest) => (c :: mark ++ ds, rest)
    else some ([], s)
  | [] => some ([], [])

def number? (s : List Char) : Option (List Char × List Char) :=
  let (minus, rest) := sign ['-'] s
  match wholePart? rest with
  | none => none
  | some (whole, rest) =>
    match fractionPart? rest with
    | none => none
    | some (fraction, rest) =>
      (exponentPart? rest).map fun (power, rest) => (minus ++ whole ++ fraction ++ power, rest)

def string? (s : List Char) : Option (Option String × List Char) :=
  (stringTail [] s).map fun (units, rest) => ((scalars? units).map String.ofList, rest)

def ofText : Option String → Json
  | some s => .string s
  | none => .broken

def ofFields (fields : List (Option String × Json)) : Json :=
  match fields.mapM fun (k, v) => k.map (·, v) with
  | some fields => .object fields
  | none => .broken

def word? (s : List Char) : Option (Json × List Char) :=
  match ['n', 'u', 'l', 'l'].isPrefixOf? s with
  | some rest => some (.null, rest)
  | none =>
    match ['t', 'r', 'u', 'e'].isPrefixOf? s with
    | some rest => some (.bool true, rest)
    | none => (['f', 'a', 'l', 's', 'e'].isPrefixOf? s).map (.bool false, ·)

mutual

/-- A value at the front, blanks before it skipped. The count bounds the steps; twice the length of
the text and two more is always enough, as no two steps in a row leave the text as it is. -/
def value? : Nat → List Char → Option (Json × List Char)
  | 0, _ => none
  | n + 1, s =>
    match skipGap s with
    | '"' :: rest => (string? rest).map fun (text, rest) => (ofText text, rest)
    | '[' :: rest =>
      match skipGap rest with
      | ']' :: rest => some (.array [], rest)
      | rest => items? n [] rest
    | '{' :: rest =>
      match skipGap rest with
      | '}' :: rest => some (.object [], rest)
      | rest => fields? n [] rest
    | rest =>
      match word? rest with
      | some found => some found
      | none => (number? rest).map fun (spelling, rest) => (.number (String.ofList spelling), rest)

def items? : Nat → List Json → List Char → Option (Json × List Char)
  | 0, _, _ => none
  | n + 1, read, s =>
    match value? n s with
    | none => none
    | some (v, rest) =>
      match skipGap rest with
      | ',' :: rest => items? n (v :: read) rest
      | ']' :: rest => some (.array (v :: read).reverse, rest)
      | _ => none

def fields? : Nat → List (Option String × Json) → List Char → Option (Json × List Char)
  | 0, _, _ => none
  | n + 1, read, s =>
    match skipGap s with
    | '"' :: rest =>
      match string? rest with
      | none => none
      | some (name, rest) =>
        match skipGap rest with
        | ':' :: rest =>
          match value? n rest with
          | none => none
          | some (v, rest) =>
            match skipGap rest with
            | ',' :: rest => fields? n ((name, v) :: read) rest
            | '}' :: rest => some (ofFields ((name, v) :: read).reverse, rest)
            | _ => none
        | _ => none
    | _ => none

end

def parse? (text : String) : Option Json :=
  let s := text.toList
  match value? (2 * s.length + 2) s with
  | some (v, rest) => if (skipGap rest).isEmpty then some v else none
  | none => none

end PublishGate.Json
