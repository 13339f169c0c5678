import PublishGate.Duration
import PublishGate.Text.Blank

/-! # Reading durations such as `1h 30m` -/

namespace PublishGate.Duration

/-- Why a text is no duration. Offsets count bytes of UTF-8. -/
inductive Fault where
  | empty
  | numberExpected (offset : Nat)
  | invalidCharacter (offset : Nat)
  | unknownUnit (unit : String) (number : Nat)
  | unrepresentable
  deriving DecidableEq, Repr

def Fault.message : Fault → String
  | .empty => "value was empty"
  | .numberExpected offset => "expected number at " ++ toString offset
  | .invalidCharacter offset => "invalid character at " ++ toString offset
  | .unknownUnit unit number =>
    if unit = "" then
      "time unit needed, for example " ++ toString number ++ "sec or " ++ toString number ++ "ms"
    else
      "unknown time unit \"" ++ unit ++ "\", supported units: ns, us/µs, ms, sec, min, hours, " ++
        "days, weeks, months, years (and few variations)"
  | .unrepresentable =>
    "number is too large or cannot be represented without a lack of precision " ++
      "(values below 1ns are not supported)"

structure Fraction where
  numerator : Nat
  denominator : Nat
  deriving DecidableEq, Repr

def within (n : Nat) : Except Fault Nat :=
  if n < 0x10000000000000000 then .ok n else .error .unrepresentable

def exactly (n divisor : Nat) : Except Fault Nat :=
  if n % divisor = 0 then .ok (n / divisor) else .error .unrepresentable

def lengthen (d : Duration) (seconds nanos : Nat) : Except Fault Duration :=
  match d.plus? seconds nanos with
  | some d => .ok d
  | none => .error .unrepresentable

/-- Adds so many units and a fraction of one. The fraction must come out even. -/
def addUnits (d : Duration) (number : Nat) (fraction : Option Fraction) (unit : String) :
    Except Fault Duration :=
  match TimeUnit.ofName? unit with
  | none => .error (.unknownUnit unit number)
  | some u => do
    let (s, n) := u.length
    let whole ← d.lengthen (← within (number * s)) (← within (number * n))
    match fraction with
    | none => .ok whole
    | some f =>
      match u.divisible? with
      | none => .error .unrepresentable
      | some (s, n) =>
        let seconds ← exactly (← within (f.numerator * s)) f.denominator
        let nanos ← exactly (← within (f.numerator * n)) f.denominator
        whole.lengthen seconds nanos

def isUnitChar (c : Char) : Bool :=
  c.isAlpha || c == 'µ'

/-- Where the reader is: looking for a number since an offset (at the start of the text or later),
in a number before or after its point, or in the name of a unit. `mark` is the offset up to which
a fraction has been read. -/
inductive Phase where
  | seeking (since : Nat) (start : Bool)
  | whole (number : Nat)
  | fraction (number : Nat) (read : Fraction) (mark : Nat)
  | unit (number : Nat) (fraction : Option Fraction) (name : List Char)
  deriving Repr

def shift (n : Nat) (c : Char) : Except Fault Nat :=
  within (10 * n + Text.digitValue c)

/-- One character, which begins at `offset`, changes the phase and may complete a unit. -/
def step (phase : Phase) (d : Duration) (offset : Nat) (c : Char) :
    Except Fault (Phase × Duration) :=
  match phase with
  | .seeking since start =>
    if c.isDigit then .ok (.whole (Text.digitValue c), d)
    else if Text.isBlank c then .ok (.seeking since start, d)
    else .error (.numberExpected since)
  | .whole n =>
    if c.isDigit then (shift n c).map fun n => (.whole n, d)
    else if Text.isBlank c then .ok (.whole n, d)
    else if isUnitChar c then .ok (.unit n none [c], d)
    else if c = '.' then .ok (.fraction n ⟨0, 1⟩ offset, d)
    else .error (.invalidCharacter offset)
  | .fraction n f mark =>
    if c.isDigit then do
      let denominator ← within (10 * f.denominator)
      let numerator ← shift f.numerator c
      .ok (.fraction n ⟨numerator, denominator⟩ (offset + c.utf8Size), d)
    else if Text.isBlank c then .ok (.fraction n f (offset + c.utf8Size), d)
    else if isUnitChar c && f.denominator != 1 then .ok (.unit n (some f) [c], d)
    else .error (.invalidCharacter mark)
  | .unit n f name =>
    if c.isDigit then
      (d.addUnits n f (String.ofList name)).map (.whole (Text.digitValue c), ·)
    else if Text.isBlank c then
      (d.addUnits n f (String.ofList name)).map (.seeking (offset + c.utf8Size) false, ·)
    else if isUnitChar c then .ok (.unit n f (name ++ [c]), d)
    else .error (.invalidCharacter offset)

def finish (phase : Phase) (d : Duration) : Except Fault Duration :=
  match phase with
  | .seeking _ true => .error .empty
  | .seeking _ false => .ok d
  | .whole n => .error (.unknownUnit "" n)
  | .fraction n f mark =>
    if f.denominator = 1 then .error (.invalidCharacter mark) else .error (.unknownUnit "" n)
  | .unit n f name => d.addUnits n f (String.ofList name)

def readFrom (phase : Phase) (d : Duration) (offset : Nat) : List Char → Except Fault Duration
  | [] => finish phase d
  | c :: s =>
    match step phase d offset c with
    | .error e => .error e
    | .ok (phase, d) => readFrom phase d (offset + c.utf8Size) s

/-- Reads numbers with units, one after another; `0` alone needs no unit. -/
def read (s : String) : Except Fault Duration :=
  if s = "0" then .ok zero else readFrom (.seeking 0 true) zero 0 s.toList

end PublishGate.Duration
