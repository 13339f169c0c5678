import PublishGate.Pattern.Expr
import PublishGate.Pattern.Unicode.Folding
import PublishGate.Pattern.Unicode.Query
import PublishGate.Text.Blank
import PublishGate.Text.Decimal
import PublishGate.Text.Hex
import PublishGate.Text.Pieces

/-! # Reading patterns -/

namespace PublishGate.Pattern

inductive Fault where
  | unclosedGroup
  | unopenedGroup
  | lookaround
  | groupName
  | repeatedGroupName
  | flags
  | nothingToRepeat
  | repetitionCount
  | escape
  | backReference
  | codePoint
  | wordBoundary
  | unclosedClass
  | classItem
  | classRange
  | unknownProperty
  | unicodeNeeded
  | nestingTooDeep
  | tooLarge
  deriving DecidableEq, Repr

def Fault.message : Fault → String
  | .unclosedGroup => "unclosed group"
  | .unopenedGroup => "unopened group"
  | .lookaround => "look-around is not supported"
  | .groupName => "invalid group name"
  | .repeatedGroupName => "repeated group name"
  | .flags => "invalid flags"
  | .nothingToRepeat => "nothing to repeat"
  | .repetitionCount => "invalid repetition count"
  | .escape => "invalid escape"
  | .backReference => "back-references are not supported"
  | .codePoint => "not a character"
  | .wordBoundary => "invalid word boundary"
  | .unclosedClass => "unclosed character class"
  | .classItem => "not allowed in a character class"
  | .classRange => "invalid character class range"
  | .unknownProperty => "unknown property"
  | .unicodeNeeded => "only allowed with Unicode"
  | .nestingTooDeep => "nested too deep"
  | .tooLarge => "too large"

structure Flags where
  ignoreCase : Bool := false
  multiLine : Bool := false
  dotAll : Bool := false
  swapGreed : Bool := false
  unicode : Bool := true
  anyLine : Bool := false
  spaced : Bool := false
  deriving DecidableEq, Repr

/-- What is still to be read, with the flags in force, the number of groups opened so far and their
names. No repetition may cost more than `limit`. -/
structure Cursor where
  rest : List Char
  limit : Nat
  flags : Flags := {}
  groups : Nat := 0
  names : List (List Char) := []
  deriving Repr

namespace Cursor

def afterComment : List Char → List Char
  | [] => []
  | c :: s => if c = '\n' then s else afterComment s

def skipSpaced : Nat → List Char → List Char
  | 0, s => s
  | _, [] => []
  | n + 1, c :: s =>
    if Text.isBlank c then skipSpaced n s
    else if c = '#' then skipSpaced n (afterComment s)
    else c :: s

/-- Skips what does not count in front of the next item, which is nothing unless the pattern is
spaced out. -/
def settle (k : Cursor) : Cursor :=
  if k.flags.spaced then { k with rest := skipSpaced k.rest.length k.rest } else k

def drop (k : Cursor) : Cursor :=
  { k with rest := k.rest.tail }

def advance (k : Cursor) : Cursor :=
  k.drop.settle

def head? (k : Cursor) : Option Char :=
  k.rest.head?

def after? (k : Cursor) (lead : String) : Option Cursor :=
  (lead.toList.isPrefixOf? k.rest).map fun rest => { k with rest }

/-- The character that counts after the next one. In a spaced pattern that is the first which is no
blank; a `#` before it is passed over too, but what follows that is not. -/
def peek (k : Cursor) : Option Char :=
  let later := k.rest.tail
  if k.flags.spaced then
    match later.dropWhile Text.isBlank with
    | '#' :: s =>
      match s.dropWhile Text.isBlank with
      | c :: _ => some c
      | [] => later.head?
    | c :: _ => some c
    | [] => later.head?
  else later.head?

end Cursor

/-! ## Names and numbers -/

def ofHex (digits : List Nat) : Except Fault Char :=
  match Text.scalar? (Text.hexNumber digits) with
  | some c => .ok c
  | none => .error .codePoint

def fixedHex : Nat → List Nat → Cursor → Except Fault (Char × Cursor)
  | 0, read, k => do return (← ofHex read.reverse, k)
  | n + 1, read, k =>
    match k.head?.bind Text.hexValue? with
    | some d => fixedHex n (d :: read) k.advance
    | none => .error .escape

def bracedHex : Nat → List Nat → Cursor → Except Fault (Char × Cursor)
  | 0, _, _ => .error .escape
  | n + 1, read, k =>
    match k.head? with
    | some '}' =>
      if read.isEmpty then .error .escape else do return (← ofHex read.reverse, k.advance)
    | some c =>
      match Text.hexValue? c with
      | some d => bracedHex n (d :: read) k.advance
      | none => .error .escape
    | none => .error .escape

def countDigits : Nat → List Char → Cursor → List Char × Cursor
  | 0, read, k => (read.reverse, k)
  | n + 1, read, k =>
    match k.head? with
    | some c => if c.isDigit then countDigits n (c :: read) k.advance else (read.reverse, k)
    | none => (read.reverse, k)

/-- A count with blanks around it, if there are any digits. Counts are words of 32 bits. -/
def count (k : Cursor) : Except Fault (Option Nat × Cursor) :=
  let k := { k with rest := k.rest.dropWhile Text.isBlank }
  let (digits, k) := countDigits k.rest.length [] k
  let k := { k with rest := k.rest.dropWhile Text.isBlank }
  let k := if digits.isEmpty then k else k.settle
  if digits.isEmpty then .ok (none, k)
  else if Text.digitsValue digits < 0x100000000 then .ok (some (Text.digitsValue digits), k)
  else .error .repetitionCount

/-! ## Single items -/

inductive Assertion where
  | lineStart
  | lineEnd
  | textStart
  | textEnd
  | wordEdge
  | noWordEdge
  | wordStart
  | wordEnd
  | wordStartHalf
  | wordEndHalf
  deriving DecidableEq, Repr

def Assertion.look (a : Assertion) (f : Flags) : Look :=
  let kind : WordKind := if f.unicode then .unicode else .ascii
  match a with
  | .lineStart => if f.multiLine then (if f.anyLine then .anyLineStart else .lineStart) else .textStart
  | .lineEnd => if f.multiLine then (if f.anyLine then .anyLineEnd else .lineEnd) else .textEnd
  | .textStart => .textStart
  | .textEnd => .textEnd
  | .wordEdge => .wordEdge kind
  | .noWordEdge => .noWordEdge kind
  | .wordStart => .wordStart kind
  | .wordEnd => .wordEnd kind
  | .wordStartHalf => .wordStartHalf kind
  | .wordEndHalf => .wordEndHalf kind

inductive LetterClass where
  | digit
  | blank
  | word
  deriving DecidableEq, Repr

def LetterClass.unicode : LetterClass → Charset
  | .digit => Unicode.digits
  | .blank => Unicode.blanks
  | .word => Unicode.wordChars

def LetterClass.ascii : LetterClass → Charset
  | .digit => .interval 0x30 0x39
  | .blank => .ofPairs [(0x09, 0x0D), (0x20, 0x20)]
  | .word => asciiWordChars

/-- An item that stands for itself, inside a class or outside. A literal written as `\xHH` may mean a
byte when Unicode is off. -/
inductive Item where
  | literal (c : Char) (asByte : Bool)
  | assertion (a : Assertion)
  | letterClass (kind : LetterClass) (negated : Bool)
  | property (set : Charset) (negated : Bool)
  deriving Repr

/-- A property between braces: a name, or a name and a value with `!=`, `:` or `=` between. The flag
says whether the value is ruled out. -/
def bracedProperty (text : List Char) : Option Charset × Bool :=
  match Text.cutFirst? ['!', '='] text with
  | some (name, value) => (Unicode.valued? name value, true)
  | none =>
    match Text.cutFirst? [':'] text with
    | some (name, value) => (Unicode.valued? name value, false)
    | none =>
      match Text.cutFirst? ['='] text with
      | some (name, value) => (Unicode.valued? name value, false)
      | none => (Unicode.named? text, false)

def upToBrace : Nat → List Char → Cursor → Option (List Char × Cursor)
  | 0, _, _ => none
  | n + 1, read, k =>
    match k.head? with
    | some '}' => some (read.reverse, k.drop)
    | some c => upToBrace n (c :: read) k.advance
    | none => none

def propertyItem (negated : Bool) (k : Cursor) : Except Fault (Item × Cursor) :=
  let finish (found : Option Charset) (negated : Bool) (k : Cursor) :=
    match found with
    | some set => .ok (.property set negated, k)
    | none => .error .unknownProperty
  match k.head? with
  | none => .error .escape
  | some '{' =>
    match upToBrace (k.rest.length + 1) [] k.advance with
    | some (text, later) =>
      let (found, unequal) := bracedProperty text
      finish found (negated != unequal) later
    | none => .error .escape
  | some '\\' => .error .unknownProperty
  | some c => finish (Unicode.named? [c]) negated k.advance

def metaChars : List Char :=
  ['\\', '.', '+', '*', '?', '(', ')', '|', '[', ']', '{', '}', '^', '$', '#', '&', '-', '~']

/-- The characters that may follow a backslash and then mean themselves: those with a meaning, and
all others of ASCII except letters, digits and angle brackets. -/
def isEscapable (c : Char) : Bool :=
  metaChars.contains c ||
    (decide (c.toNat < 0x80) && !(asciiWordChars.contains c && c != '_') && c != '<' && c != '>')

def boundaryName : Nat → List Char → Cursor → List Char × Cursor
  | 0, read, k => (read.reverse, k)
  | n + 1, read, k =>
    match k.head? with
    | some c =>
      if ('A' ≤ c ∧ c ≤ 'Z') ∨ ('a' ≤ c ∧ c ≤ 'z') ∨ c = '-' then
        boundaryName n (c :: read) k.advance
      else (read.reverse, k)
    | none => (read.reverse, k)

/-- What `\b` means: a special boundary when a name in braces follows, else the edge of a word. Braces
with anything else are left to be read as a count. -/
def wordBoundary (k : Cursor) : Except Fault (Item × Cursor) :=
  match k.head? with
  | some '{' =>
    let inner := k.advance
    match inner.head? with
    | none => .error .wordBoundary
    | some _ =>
      let (name, later) := boundaryName inner.rest.length [] inner
      if name.isEmpty then .ok (.assertion .wordEdge, k)
      else if later.head? != some '}' then .error .wordBoundary
      else
        match String.ofList name with
        | "start" => .ok (.assertion .wordStart, later.drop)
        | "end" => .ok (.assertion .wordEnd, later.drop)
        | "start-half" => .ok (.assertion .wordStartHalf, later.drop)
        | "end-half" => .ok (.assertion .wordEndHalf, later.drop)
        | _ => .error .wordBoundary
  | _ => .ok (.assertion .wordEdge, k)

def hexItem (letter : Char) (k : Cursor) : Except Fault (Item × Cursor) :=
  match k.head? with
  | none => .error .escape
  | some '{' => do
    let (c, k) ← bracedHex (k.rest.length + 1) [] k.advance
    return (.literal c false, k)
  | some _ => do
    let width := if letter = 'x' then 2 else if letter = 'u' then 4 else 8
    let (c, k) ← fixedHex width [] k
    return (.literal c (letter = 'x'), k)

def escaped (k : Cursor) : Except Fault (Item × Cursor) :=
  match k.head? with
  | none => .error .escape
  | some c =>
    if c.isDigit then .error .backReference
    else if c = 'x' ∨ c = 'u' ∨ c = 'U' then hexItem c k.advance
    else if c = 'p' ∨ c = 'P' then propertyItem (c = 'P') k.advance
    else if isEscapable c then .ok (.literal c false, k.drop)
    else
      let rest := k.drop
      match c with
      | 'd' => .ok (.letterClass .digit false, rest)
      | 'D' => .ok (.letterClass .digit true, rest)
      | 's' => .ok (.letterClass .blank false, rest)
      | 'S' => .ok (.letterClass .blank true, rest)
      | 'w' => .ok (.letterClass .word false, rest)
      | 'W' => .ok (.letterClass .word true, rest)
      | 'a' => .ok (.literal '\x07' false, rest)
      | 'f' => .ok (.literal '\x0C' false, rest)
      | 't' => .ok (.literal '\t' false, rest)
      | 'n' => .ok (.literal '\n' false, rest)
      | 'r' => .ok (.literal '\r' false, rest)
      | 'v' => .ok (.literal '\x0B' false, rest)
      | 'A' => .ok (.assertion .textStart, rest)
      | 'z' => .ok (.assertion .textEnd, rest)
      | 'b' => wordBoundary rest
      | 'B' => .ok (.assertion .noWordEdge, rest)
      | '<' => .ok (.assertion .wordStart, rest)
      | '>' => .ok (.assertion .wordEnd, rest)
      | _ => .error .escape

/-! ## Sets of characters under flags -/

def Flags.folded (f : Flags) (s : Charset) : Charset :=
  if f.ignoreCase then
    Unicode.caseClosure (if f.unicode then Unicode.foldings else Unicode.asciiFoldings) s
  else s

/-- Case first, negation second. Without Unicode a negated set would hold bytes that are no
characters. -/
def Flags.foldedAndNegated (f : Flags) (s : Charset) (negated : Bool) : Except Fault Charset :=
  if negated then
    if f.unicode then .ok (f.folded s).complement else .error .unicodeNeeded
  else .ok (f.folded s)

/-- A class with a letter, which is closed under case as it is. -/
def Flags.letterSet (f : Flags) (kind : LetterClass) (negated : Bool) : Except Fault Charset :=
  if f.unicode then .ok (if negated then kind.unicode.complement else kind.unicode)
  else if negated then .error .unicodeNeeded
  else .ok kind.ascii

def Flags.propertySet (f : Flags) (set : Charset) (negated : Bool) : Except Fault Charset :=
  if f.unicode then f.foldedAndNegated set negated else .error .unicodeNeeded

def Flags.literalSet (f : Flags) (c : Char) (asByte : Bool) : Except Fault Charset :=
  if !f.unicode && asByte && decide (0x7F < c.toNat) then .error .unicodeNeeded
  else .ok (f.folded (.single c))

def Flags.dotSet (f : Flags) : Except Fault Charset :=
  if !f.unicode then .error .unicodeNeeded
  else if f.dotAll then .ok .full
  else if f.anyLine then
    .ok (.ofPairs [(0, 0x09), (0x0B, 0x0C), (0x0E, Charset.top)])
  else .ok (.ofPairs [(0, 0x09), (0x0B, Charset.top)])

/-! ## Classes in brackets -/

inductive SetOp where
  | both
  | without
  | either
  deriving DecidableEq, Repr

def SetOp.apply (op : SetOp) (a b : Charset) : Charset :=
  match op with
  | .both => a.inter b
  | .without => a.diff b
  | .either => a.symmDiff b

/-- A bracket read in part: what an operator waits for, and the items since, with their number and
how deep they nest. -/
structure Bracket where
  negated : Bool
  waiting : Option (SetOp × Charset × Nat) := none
  set : Charset := .empty
  items : Nat := 0
  depth : Nat := 0

namespace Bracket

def add (b : Bracket) (s : Charset) (depth : Nat) : Bracket :=
  { b with set := b.set.union s, items := b.items + 1, depth := max b.depth depth }

def close (b : Bracket) (f : Flags) : Charset × Nat :=
  let depth := if b.items ≤ 1 then b.depth else b.depth + 1
  match b.waiting with
  | none => (b.set, depth)
  | some (op, left, leftDepth) =>
    (op.apply (f.folded left) (f.folded b.set), 1 + max leftDepth depth)

def wait (b : Bracket) (f : Flags) (op : SetOp) : Bracket :=
  let (set, depth) := b.close f
  { negated := b.negated, waiting := some (op, set, depth) }

end Bracket

def asciiClass? (name : String) : Option Charset :=
  match name with
  | "alnum" => some (.ofPairs [(0x30, 0x39), (0x41, 0x5A), (0x61, 0x7A)])
  | "alpha" => some (.ofPairs [(0x41, 0x5A), (0x61, 0x7A)])
  | "ascii" => some (.interval 0 0x7F)
  | "blank" => some (.ofPairs [(0x09, 0x09), (0x20, 0x20)])
  | "cntrl" => some (.ofPairs [(0x00, 0x1F), (0x7F, 0x7F)])
  | "digit" => some (.interval 0x30 0x39)
  | "graph" => some (.interval 0x21 0x7E)
  | "lower" => some (.interval 0x61 0x7A)
  | "print" => some (.interval 0x20 0x7E)
  | "punct" => some (.ofPairs [(0x21, 0x2F), (0x3A, 0x40), (0x5B, 0x60), (0x7B, 0x7E)])
  | "space" => some (.ofPairs [(0x09, 0x0D), (0x20, 0x20)])
  | "upper" => some (.interval 0x41 0x5A)
  | "word" => some asciiWordChars
  | "xdigit" => some (.ofPairs [(0x30, 0x39), (0x41, 0x46), (0x61, 0x66)])
  | _ => none

def namedClass? (s : List Char) : Option (Charset × Bool × List Char) :=
  match s with
  | '[' :: ':' :: s =>
    let (negated, s) := match s with
      | '^' :: s => (true, s)
      | s => (false, s)
    match [':', ']'].isPrefixOf? (s.dropWhile (· != ':')) with
    | some rest =>
      (asciiClass? (String.ofList (s.takeWhile (· != ':')))).map fun set => (set, negated, rest)
    | none => none
  | _ => none

def classPrimitive (k : Cursor) : Except Fault (Item × Cursor) :=
  match k.head? with
  | none => .error .unclosedClass
  | some '\\' => escaped k.drop
  | some c => .ok (.literal c false, k.drop)

def classLiteral (f : Flags) (item : Item) : Except Fault Char :=
  match item with
  | .literal c _ =>
    if !f.unicode && decide (0x7F < c.toNat) then .error .unicodeNeeded else .ok c
  | _ => .error .classRange

def itemSet (f : Flags) (item : Item) : Except Fault Charset :=
  match item with
  | .literal _ _ => do return .single (← classLiteral f item)
  | .letterClass kind negated => f.letterSet kind negated
  | .property set negated => f.propertySet set negated
  | .assertion _ => .error .classItem

/-- A range or a single item. A hyphen before a closing bracket or another hyphen makes no range. -/
def classRange (k : Cursor) : Except Fault (Charset × Cursor) := do
  let (first, k) ← classPrimitive k
  let k := k.settle
  match k.head? with
  | none => .error .unclosedClass
  | some c =>
    if c != '-' || k.peek = some ']' || k.peek = some '-' then return (← itemSet k.flags first, k)
    else
      let k := k.advance
      let (last, k) ← classPrimitive k
      let low ← classLiteral k.flags first
      let high ← classLiteral k.flags last
      if high < low then .error .classRange
      else return (.interval low.toNat high.toNat, k)

def leadingHyphens : Nat → Bracket → Cursor → Bracket × Cursor
  | 0, b, k => (b, k)
  | n + 1, b, k =>
    match k.head? with
    | some '-' => leadingHyphens n (b.add (.single '-') 0) k.advance
    | _ => (b, k)

/-- The start of a class after its opening bracket: a caret negates it, hyphens stand for
themselves, and so does a closing bracket that would leave it empty. -/
def openBracket (k : Cursor) : Except Fault (Bracket × Cursor) :=
  let k := k.settle
  let (negated, k) := if k.head? = some '^' then (true, k.advance) else (false, k)
  let (b, k) := leadingHyphens k.rest.length { negated } k
  let (b, k) :=
    if b.items = 0 ∧ k.head? = some ']' then (b.add (.single ']') 0, k.advance) else (b, k)
  if k.rest.isEmpty then .error .unclosedClass else .ok (b, k)

/-- A class up to its closing bracket: its set, its nesting, and where to go on. The count bounds the
number of items and nested classes. -/
def bracket : Nat → Bracket → Cursor → Except Fault (Charset × Nat × Cursor)
  | 0, _, _ => .error .unclosedClass
  | n + 1, b, k => do
    let k := k.settle
    match k.rest with
    | [] => .error .unclosedClass
    | ']' :: rest =>
      let (set, depth) := b.close k.flags
      return (← k.flags.foldedAndNegated set b.negated, depth + 1, { k with rest })
    | '&' :: '&' :: rest => bracket n (b.wait k.flags .both) { k with rest }
    | '-' :: '-' :: rest => bracket n (b.wait k.flags .without) { k with rest }
    | '~' :: '~' :: rest => bracket n (b.wait k.flags .either) { k with rest }
    | '[' :: _ =>
      match namedClass? k.rest with
      | some (set, negated, rest) =>
        bracket n (b.add (← k.flags.foldedAndNegated set negated) 0) { k with rest }
      | none =>
        let (inner, k) ← openBracket k.drop
        let (set, depth, k) ← bracket n inner k
        bracket n (b.add set depth) k
    | _ :: _ =>
      let (set, k) ← classRange k
      bracket n (b.add set 0) k

def bracketClass (k : Cursor) : Except Fault (Charset × Nat × Cursor) := do
  let (b, later) ← openBracket k
  bracket (k.rest.length + 1) b later

/-! ## Groups and repetitions -/

/-- A part of a pattern with its nesting. A change of flags counts as a part but cannot be
repeated. -/
structure Part where
  expr : Expr
  depth : Nat
  repeatable : Bool := true
  deriving Repr

def Part.inRow (parts : List Part) : Part :=
  match parts with
  | [] => ⟨.empty, 0, false⟩
  | [p] => p
  | ps => ⟨Expr.sequence (ps.reverse.map (·.expr)), 1 + (ps.map (·.depth)).foldl max 0, true⟩

def Part.oneOf (parts : List Part) : Part :=
  match parts with
  | [] => ⟨.empty, 0, false⟩
  | [p] => p
  | ps => ⟨Expr.choice (ps.reverse.map (·.expr)), 1 + (ps.map (·.depth)).foldl max 0, true⟩

def repeatLast (k : Cursor) (least : Nat) (most : Option Nat) (greedy : Bool) (parts : List Part) :
    Except Fault (List Part) :=
  match parts with
  | [] => .error .nothingToRepeat
  | p :: ps =>
    if !p.repeatable then .error .nothingToRepeat
    else match p.expr.times? k.limit least most (greedy != k.flags.swapGreed) with
      | some e => .ok (⟨e, p.depth + 1, true⟩ :: ps)
      | none => .error .tooLarge

def laziness (k : Cursor) : Bool × Cursor :=
  if k.head? = some '?' then (false, k.drop) else (true, k)

def countRange (k : Cursor) : Except Fault ((Nat × Option Nat) × Cursor) := do
  let (least, k) ← count k
  match k.head? with
  | some ',' =>
    let k := k.advance
    match least with
    | none => .error .repetitionCount
    | some least =>
      if k.head? = some '}' then return ((least, none), k)
      else
        let (most, k) ← count k
        match most with
        | none => .error .repetitionCount
        | some most => return ((least, some most), k)
  | _ =>
    match least with
    | some n => return ((n, some n), k)
    | none => .error .repetitionCount

def counted (parts : List Part) (k : Cursor) : Except Fault (List Part × Cursor) := do
  if !(parts.head?.any (·.repeatable)) then .error .nothingToRepeat
  else
    let ((least, most), k) ← countRange k
    if k.head? != some '}' then .error .repetitionCount
    else
      let (greedy, k) := laziness k.advance
      if most.any (· < least) then .error .repetitionCount
      else return (← repeatLast k least most greedy parts, k)

def signed (least : Nat) (most : Option Nat) (parts : List Part) (k : Cursor) :
    Except Fault (List Part × Cursor) := do
  let (greedy, k) := laziness k
  return (← repeatLast k least most greedy parts, k)

def Flags.set? (f : Flags) (letter : Char) (on : Bool) : Option Flags :=
  match letter with
  | 'i' => some { f with ignoreCase := on }
  | 'm' => some { f with multiLine := on }
  | 's' => some { f with dotAll := on }
  | 'U' => some { f with swapGreed := on }
  | 'u' => some { f with unicode := on }
  | 'R' => some { f with anyLine := on }
  | 'x' => some { f with spaced := on }
  | _ => none

/-- Reads flags up to a colon or a closing parenthesis; letters after a hyphen are turned off. No
letter and no hyphen comes twice, and a hyphen is not last. -/
def flagList (f : Flags) (seen : List Char) : List Char →
    Except Fault (Flags × List Char × Char × List Char)
  | [] => .error .flags
  | c :: rest =>
    if c = ':' ∨ c = ')' then
      if seen.head? = some '-' then .error .flags else .ok (f, seen, c, rest)
    else if seen.contains c then .error .flags
    else if c = '-' then flagList f (c :: seen) rest
    else match f.set? c (!seen.contains '-') with
      | some f => flagList f (c :: seen) rest
      | none => .error .flags

def isNameStart (c : Char) : Bool :=
  c = '_' || Unicode.alphabetic.contains c

def isNamePart (c : Char) : Bool :=
  c = '_' || c = '.' || c = '[' || c = ']' || Unicode.alphanumeric.contains c

def groupName (s : List Char) : Except Fault (List Char × List Char) :=
  let name := s.takeWhile (· != '>')
  match s.dropWhile (· != '>'), name with
  | '>' :: rest, c :: cs =>
    if isNameStart c && cs.all isNamePart then .ok (name, rest) else .error .groupName
  | _, _ => .error .groupName

inductive Opening where
  | numbered (index : Nat)
  | plain
  | flagsOnly
  deriving DecidableEq, Repr

def opening (k : Cursor) : Except Fault (Opening × Cursor) :=
  let k := k.settle
  if ["?=", "?!", "?<=", "?<!"].any fun lead => (k.after? lead).isSome then .error .lookaround
  else
    match (match k.after? "?P<" with
      | some named => some named
      | none => k.after? "?<") with
    | some named => do
      let (name, rest) ← groupName named.rest
      if k.names.contains name then .error .repeatedGroupName
      else return (.numbered (k.groups + 1),
        { k with rest, groups := k.groups + 1, names := name :: k.names })
    | none =>
      match k.rest with
      | '?' :: s => do
        let (flags, seen, stop, rest) ← flagList k.flags [] s
        if stop = ':' then return (.plain, { k with rest, flags })
        else if seen.isEmpty then .error .nothingToRepeat
        else return (.flagsOnly, { k with rest, flags })
      | _ => .ok (.numbered (k.groups + 1), { k with groups := k.groups + 1 })

def single (k : Cursor) : Except Fault (Part × Cursor) :=
  match k.head? with
  | none => .error .unclosedGroup
  | some '.' => do return (⟨.chars (← k.flags.dotSet), 0, true⟩, k.drop)
  | some '^' => .ok (⟨.look (Assertion.lineStart.look k.flags), 0, true⟩, k.drop)
  | some '$' => .ok (⟨.look (Assertion.lineEnd.look k.flags), 0, true⟩, k.drop)
  | some '\\' => do
    let (item, k) ← escaped k.drop
    match item with
    | .literal c asByte => return (⟨.chars (← k.flags.literalSet c asByte), 0, true⟩, k)
    | .assertion a => return (⟨.look (a.look k.flags), 0, true⟩, k)
    | .letterClass kind negated => return (⟨.chars (← k.flags.letterSet kind negated), 0, true⟩, k)
    | .property set negated => return (⟨.chars (← k.flags.propertySet set negated).tidy, 0, true⟩, k)
  | some c => do return (⟨.chars (← k.flags.literalSet c false), 0, true⟩, k.drop)

/-- Reads alternatives up to the end or a closing parenthesis, which is left to be read. `branches`
and `parts` hold what was read before, latest first. The count bounds the number of steps. -/
def alternatives : Nat → List Part → List Part → Cursor → Except Fault (Part × Cursor)
  | 0, _, _, _ => .error .unclosedGroup
  | n + 1, branches, parts, k => do
    let k := k.settle
    match k.rest with
    | [] => return (.oneOf (.inRow parts :: branches), k)
    | ')' :: _ => return (.oneOf (.inRow parts :: branches), k)
    | '|' :: rest => alternatives n (.inRow parts :: branches) [] { k with rest }
    | '(' :: rest =>
      let (start, inner) ← opening { k with rest }
      if start = .flagsOnly then alternatives n branches (⟨.empty, 0, false⟩ :: parts) inner
      else
        let (body, later) ← alternatives n [] [] inner
        match later.rest with
        | ')' :: rest =>
          let e := match start with
            | .numbered index => .group index body.expr
            | _ => body.expr
          alternatives n branches (⟨e, body.depth + 1, true⟩ :: parts)
            { later with rest, flags := k.flags }
        | _ => .error .unclosedGroup
    | '[' :: rest =>
      let (set, depth, k) ← bracketClass { k with rest }
      alternatives n branches (⟨.chars set.tidy, depth, true⟩ :: parts) k
    | '?' :: rest =>
      let (parts, k) ← signed 0 (some 1) parts { k with rest }
      alternatives n branches parts k
    | '*' :: rest =>
      let (parts, k) ← signed 0 none parts { k with rest }
      alternatives n branches parts k
    | '+' :: rest =>
      let (parts, k) ← signed 1 none parts { k with rest }
      alternatives n branches parts k
    | '{' :: rest =>
      let (parts, k) ← counted parts (Cursor.settle { k with rest })
      alternatives n branches parts k
    | _ :: _ =>
      let (part, k) ← single k
      alternatives n branches (part :: parts) k

def nestLimit : Nat := 250

def read (limit : Nat) (s : List Char) : Except Fault Expr := do
  let (part, k) ← alternatives (s.length + 1) [] [] { rest := s, limit }
  if !k.rest.isEmpty then .error .unopenedGroup
  else if nestLimit < part.depth then .error .nestingTooDeep
  else if limit < part.expr.cost then .error .tooLarge
  else return part.expr

/-- A syntax of patterns: the expression that a source stands for, or the text of what is wrong with
it. -/
structure Dialect where
  read : String → Except String Expr

def sizeLimit : Nat := 10 * 0x100000

/-- The syntax that is read here, for patterns that are estimated to fit into the limit. -/
def Dialect.sized (limit : Nat) : Dialect where
  read source := (Pattern.read limit source.toList).mapError Fault.message

def Dialect.standard : Dialect := .sized sizeLimit

end PublishGate.Pattern
