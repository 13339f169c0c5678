import PublishGate.Text.Hex

/-! # Writing strings in TOML -/

namespace PublishGate.Toml.Quoted

/-- The ways to write a string: between double quotes with escapes, or between single quotes as it
stands, on one line or on several. -/
inductive Style where
  | basic
  | literal
  | basicLines
  | literalLines
  deriving DecidableEq, Repr

def isControl (c : Char) : Bool :=
  (decide (c.toNat < 0x20) && c != '\n') || c.toNat == 0x7F

def longestRun (q : Char) : Nat → List Char → Nat
  | run, [] => run
  | run, c :: s => if c = q then longestRun q (run + 1) s else max run (longestRun q 0 s)

/-- The first style in which the text needs no escape, in the order basic, literal and the same on
several lines; otherwise a basic style, on several lines when the text has some. A style of one line
without escapes also avoids its own quote. -/
def style (s : List Char) : Style :=
  let control := s.any isControl
  let several := s.contains '\n'
  let double := longestRun '"' 0 s
  let single := longestRun '\'' 0 s
  if !control && !s.contains '\\' && double = 0 && !several then .basic
  else if !control && single = 0 && !several then .literal
  else if !control && !s.contains '\\' && double < 3 then .basicLines
  else if !control && single < 3 then .literalLines
  else if several then .basicLines
  else .basic

def escape (c : Char) : List Char :=
  if c.toNat = 0x08 then ['\\', 'b']
  else if c = '\t' then ['\\', 't']
  else if c = '\n' then ['\\', 'n']
  else if c.toNat = 0x0C then ['\\', 'f']
  else if c = '\r' then ['\\', 'r']
  else if c = '"' then ['\\', '"']
  else if c = '\\' then ['\\', '\\']
  else ['\\', 'u', '0', '0', Text.upperHex (c.toNat / 16), Text.upperHex (c.toNat % 16)]

/-- The inside of a basic string. On several lines a line feed stands for itself, and so does a quote
unless it is the third in a row since the last escape. -/
def inside (multi : Bool) : Nat → List Char → List Char
  | _, [] => []
  | run, c :: s =>
    if c = '"' then
      if multi && decide (run < 2) then c :: inside multi (run + 1) s
      else escape c ++ inside multi 0 s
    else if isControl c || c == '\\' || (c == '\n' && !multi) then escape c ++ inside multi 0 s
    else c :: inside multi 0 s

def leadBreak (s : List Char) : List Char :=
  if s.contains '\n' then ['\n'] else []

def inStyle (s : List Char) : Style → List Char
  | .basic => '"' :: (inside false 0 s ++ ['"'])
  | .literal => '\'' :: (s ++ ['\''])
  | .basicLines => ['"', '"', '"'] ++ leadBreak s ++ inside true 0 s ++ ['"', '"', '"']
  | .literalLines => ['\'', '\'', '\''] ++ leadBreak s ++ s ++ ['\'', '\'', '\'']

def write (s : String) : List Char :=
  inStyle s.toList (style s.toList)

end PublishGate.Toml.Quoted
