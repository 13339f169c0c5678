import PublishGate.Pattern.Charset
import PublishGate.Pattern.Unicode.Query

/-! # Pattern expressions -/

namespace PublishGate.Pattern

inductive WordKind where
  | ascii
  | unicode
  deriving DecidableEq, Repr

inductive Look where
  | textStart
  | textEnd
  | lineStart
  | lineEnd
  | anyLineStart
  | anyLineEnd
  | wordEdge (kind : WordKind)
  | noWordEdge (kind : WordKind)
  | wordStart (kind : WordKind)
  | wordEnd (kind : WordKind)
  | wordStartHalf (kind : WordKind)
  | wordEndHalf (kind : WordKind)
  deriving DecidableEq, Repr

def asciiWordChars : Charset :=
  .ofPairs [(0x30, 0x39), (0x41, 0x5A), (0x5F, 0x5F), (0x61, 0x7A)]

def WordKind.chars : WordKind → Charset
  | .ascii => asciiWordChars
  | .unicode => Unicode.wordChars

def WordKind.atWord (kind : WordKind) : Option Char → Bool
  | some c => kind.chars.contains c
  | none => false

/-- Whether the condition holds between these neighbours, `none` standing for the ends of the
text. The `anyLine` conditions take a carriage return for a line end too, but none inside the pair
of carriage return and line feed. -/
def Look.holds (look : Look) (before after : Option Char) : Bool :=
  match look with
  | .textStart => before.isNone
  | .textEnd => after.isNone
  | .lineStart => before.isNone || before = some '\n'
  | .lineEnd => after.isNone || after = some '\n'
  | .anyLineStart =>
    before.isNone || before = some '\n' || (before = some '\r' && after != some '\n')
  | .anyLineEnd =>
    after.isNone || after = some '\r' || (after = some '\n' && before != some '\r')
  | .wordEdge k => k.atWord before != k.atWord after
  | .noWordEdge k => k.atWord before == k.atWord after
  | .wordStart k => !k.atWord before && k.atWord after
  | .wordEnd k => k.atWord before && !k.atWord after
  | .wordStartHalf k => !k.atWord before
  | .wordEndHalf k => !k.atWord after

/-- A pattern with all its flags resolved. Of two ways to match, `alt` prefers its first part, and
a greedy repetition one more round. -/
inductive Expr where
  | empty
  | chars (set : Charset)
  | look (l : Look)
  | group (index : Nat) (e : Expr)
  | seq (a b : Expr)
  | alt (a b : Expr)
  | optional (greedy : Bool) (e : Expr)
  | plus (greedy : Bool) (e : Expr)
  | star (greedy : Bool) (e : Expr)
  deriving DecidableEq, Repr, Inhabited

namespace Expr

def takesNothing : Expr → Bool
  | .empty => true
  | .chars _ => false
  | .look _ => true
  | .group _ e => e.takesNothing
  | .seq a b => a.takesNothing && b.takesNothing
  | .alt a b => a.takesNothing && b.takesNothing
  | .optional _ e => e.takesNothing
  | .plus _ e => e.takesNothing
  | .star _ e => e.takesNothing

def mayTakeNothing : Expr → Bool
  | .empty => true
  | .chars _ => false
  | .look _ => true
  | .group _ e => e.mayTakeNothing
  | .seq a b => a.mayTakeNothing && b.mayTakeNothing
  | .alt a b => a.mayTakeNothing || b.mayTakeNothing
  | .optional _ _ => true
  | .plus _ e => e.mayTakeNothing
  | .star _ _ => true

def groups : Expr → Nat
  | .empty => 0
  | .chars _ => 0
  | .look _ => 0
  | .group index e => max index e.groups
  | .seq a b => max a.groups b.groups
  | .alt a b => max a.groups b.groups
  | .optional _ e => e.groups
  | .plus _ e => e.groups
  | .star _ e => e.groups

/-- A range beyond ASCII takes states of its own for its bytes, here counted as two. -/
def rangeCost (r : CodeRange) : Nat :=
  if r.high < 0x80 then 8 else 64

/-- What a set takes in a compiled pattern: one state for a letter of ASCII, two for any other set,
and a transition for each range. -/
def setCost (set : Charset) : Nat :=
  match set.ranges with
  | [⟨low, high⟩] => if low = high ∧ high < 0x80 then 32 else 64 + rangeCost ⟨low, high⟩
  | ranges => 64 + (ranges.map rangeCost).foldl (· + ·) 0

/-- An estimate of what the compiled expression takes in bytes. -/
def cost : Expr → Nat
  | .empty => 32
  | .chars set => setCost set
  | .look _ => 32
  | .group _ e => e.cost + 64
  | .seq a b => a.cost + b.cost
  | .alt a b => a.cost + b.cost + 40
  | .optional _ e => e.cost + 40
  | .plus _ e => e.cost + 40
  | .star _ e => e.cost + 40

def sequence : List Expr → Expr
  | [] => .empty
  | [e] => e
  | e :: f :: rest => .seq e (sequence (f :: rest))

def choice : List Expr → Expr
  | [] => .empty
  | [e] => e
  | e :: f :: rest => .alt e (choice (f :: rest))

def rounds (e last : Expr) : Nat → Expr
  | 0 => last
  | n + 1 => .seq e (rounds e last n)

def upTo (greedy : Bool) (e : Expr) : Nat → Expr
  | 0 => .empty
  | 1 => .optional greedy e
  | n + 2 => .optional greedy (.seq e (upTo greedy e (n + 1)))

def unrolled (e : Expr) (least : Nat) (most : Option Nat) (greedy : Bool) : Expr :=
  match most, least with
  | none, 0 => .star greedy e
  | none, n + 1 => rounds e (.plus greedy e) n
  | some most, 0 => upTo greedy e most
  | some most, n + 1 =>
    if most ≤ n + 1 then rounds e e n else rounds e (.seq e (upTo greedy e (most - (n + 1)))) n

/-- Repetition. What matches no character is repeated once at most, and no rounds at all leave
nothing, not even its groups. `none` when the result would cost more than `limit`. -/
def times? (limit : Nat) (e : Expr) (least : Nat) (most : Option Nat) (greedy : Bool) :
    Option Expr :=
  let least := if e.takesNothing then min least 1 else least
  let most := if e.takesNothing then some (min (most.getD 1) 1) else most
  let count := max 1 (max least (most.getD 0))
  if most = some 0 then some .empty
  else if limit < count * e.cost then none
  else some (e.unrolled least most greedy)

end Expr

end PublishGate.Pattern
