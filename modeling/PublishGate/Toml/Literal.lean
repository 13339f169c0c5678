import PublishGate.Text.Decimal
import PublishGate.Text.Hex

/-! # Numbers, dates and times of TOML -/

namespace PublishGate.Toml.Literal

def isRun (digit : Char → Bool) (s : List Char) : Bool :=
  (s.splitOn '_').all fun p => !p.isEmpty && p.all digit

def dropSign : List Char → List Char
  | '+' :: s => s
  | '-' :: s => s
  | s => s

def isWhole (s : List Char) : Bool :=
  isRun Char.isDigit s && (s.head? != some '0' || s.length == 1)

/-- A whole number. No setting is a number, so its value is never taken, and it may have any size. -/
def isInteger : List Char → Bool
  | '0' :: 'x' :: s => isRun (fun c => (Text.hexValue? c).isSome) s
  | '0' :: 'o' :: s => isRun (fun c => decide ('0' ≤ c) && decide (c ≤ '7')) s
  | '0' :: 'b' :: s => isRun (fun c => c == '0' || c == '1') s
  | s => isWhole (dropSign s)

def isPointed (s : List Char) : Bool :=
  match s.splitOn '.' with
  | [whole, fraction] => isWhole whole && isRun Char.isDigit fraction
  | _ => false

def isFloat (s : List Char) : Bool :=
  let s := dropSign s
  s == ['i', 'n', 'f'] || s == ['n', 'a', 'n'] ||
    match s.splitOnP (fun c => c == 'e' || c == 'E') with
    | [s] => isPointed s
    | [s, power] => (isPointed s || isWhole s) && isRun Char.isDigit (dropSign power)
    | _ => false

def isField (width low high : Nat) (s : List Char) : Bool :=
  s.length == width && s.all Char.isDigit &&
    decide (low ≤ Text.digitsValue s) && decide (Text.digitsValue s ≤ high)

def isLeapYear (y : Nat) : Bool :=
  y % 4 == 0 && (y % 100 != 0 || y % 400 == 0)

def daysIn (year month : Nat) : Nat :=
  if month = 2 then (if isLeapYear year then 29 else 28)
  else if month = 4 ∨ month = 6 ∨ month = 9 ∨ month = 11 then 30
  else 31

def isDate (s : List Char) : Bool :=
  match s.splitOn '-' with
  | [y, m, d] =>
    isField 4 0 9999 y && isField 2 1 12 m &&
      isField 2 1 (daysIn (Text.digitsValue y) (Text.digitsValue m)) d
  | _ => false

def isClock (s : List Char) : Bool :=
  match s.splitOn ':' with
  | [h, m] => isField 2 0 23 h && isField 2 0 59 m
  | _ => false

/-- Seconds, which may be 60, with an optional fraction. -/
def isSeconds (s : List Char) : Bool :=
  match s.splitOn '.' with
  | [s] => isField 2 0 60 s
  | [s, fraction] => isField 2 0 60 s && Text.isNatural fraction
  | _ => false

def isTime (s : List Char) : Bool :=
  match s.splitOn ':' with
  | [_, _] => isClock s
  | [h, m, second] => isField 2 0 23 h && isField 2 0 59 m && isSeconds second
  | _ => false

def isOffsetTime (s : List Char) : Bool :=
  isTime s ||
    match s.getLast? with
    | some 'Z' => isTime s.dropLast
    | some 'z' => isTime s.dropLast
    | _ =>
      match s.drop (s.length - 6) with
      | '+' :: clock => isTime (s.take (s.length - 6)) && isClock clock
      | '-' :: clock => isTime (s.take (s.length - 6)) && isClock clock
      | _ => false

def isMoment (s : List Char) : Bool :=
  isDate s || isTime s ||
    match s.drop 10 with
    | mark :: time =>
      isDate (s.take 10) && (mark == 'T' || mark == 't' || mark == ' ') && isOffsetTime time
    | [] => false

def isPart (c : Char) : Bool :=
  c.isAlphanum || c == '_' || c == '+' || c == '-' || c == '.' || c == ':'

/-- A run of such characters at the front. A blank that stands between a date and a digit is part of
it. -/
def run (s : List Char) : List Char × List Char :=
  let front := s.takeWhile isPart
  match s.dropWhile isPart with
  | ' ' :: c :: rest =>
    if isDate front && c.isDigit then
      (front ++ ' ' :: (c :: rest).takeWhile isPart, (c :: rest).dropWhile isPart)
    else (front, ' ' :: c :: rest)
  | rest => (front, rest)

def isLiteral (s : List Char) : Bool :=
  isInteger s || isFloat s || isMoment s

end PublishGate.Toml.Literal
