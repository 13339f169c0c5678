import PublishGate.Pattern.Program

/-! # Searching a line

A line is read from its end to its start. At each place the search knows, for every step that takes
a character, what comes of taking the next one there, and so finds the first way to go on that leads
to a match without ever trying a way twice. -/

namespace PublishGate.Pattern

/-- The text of the group on the way from some place to the end of a match, read backwards: none so
far, its end passed but not its start, or all of it. The last round of a repeated group counts. -/
inductive Captured where
  | nothing
  | partly (text : List Char)
  | text (text : List Char)
  deriving DecidableEq, Repr, Inhabited

namespace Captured

def taking (c : Char) : Captured → Captured
  | .partly t => .partly (c :: t)
  | r => r

def closing : Captured → Captured
  | .nothing => .partly []
  | r => r

def opening : Captured → Captured
  | .partly t => .text t
  | r => r

def text? : Captured → Option (List Char)
  | .text t => some t
  | _ => none

end Captured

abbrev Column := Array (Option Captured)

namespace Program

/-- A place between two characters, with what the steps that take one there lead to. -/
structure Spot where
  before : Option Char
  after : Option Char
  taken : Column

/-- The outcome from a step, and the steps seen on the way, as bits. A step already seen leads to
nothing new: either it failed, or this way runs in a circle. The count bounds the length of a way
without circles. -/
def explore (p : Program) (spot : Spot) : Nat → Nat → Nat → Option Captured × Nat
  | 0, seen, _ => (none, seen)
  | n + 1, seen, i =>
    if seen.testBit i then (none, seen)
    else
      let seen := seen ||| 1 <<< i
      match p.steps[i]? with
      | none => (none, seen)
      | some .accept => (some .nothing, seen)
      | some (.take _ _) => ((spot.taken[i]?).getD none, seen)
      | some (.jump next) => explore p spot n seen next
      | some (.check l next) =>
        if l.holds spot.before spot.after then explore p spot n seen next else (none, seen)
      | some (.fork first second) =>
        match explore p spot n seen first with
        | (some r, seen) => (some r, seen)
        | (none, seen) => explore p spot n seen second
      | some (.groupStart next) =>
        let (r, seen) := explore p spot n seen next
        (r.map Captured.opening, seen)
      | some (.groupEnd next) =>
        let (r, seen) := explore p spot n seen next
        (r.map Captured.closing, seen)

def outcome (p : Program) (spot : Spot) (i : Nat) : Option Captured :=
  (explore p spot (p.steps.size + 1) 0 i).1

def column (p : Program) (c : Char) (spot : Spot) : Column :=
  p.steps.map fun
    | .take set next =>
      if set.contains c then (p.outcome spot next).map (Captured.taking c) else none
    | _ => none

def emptyColumn (p : Program) : Column :=
  p.steps.map fun _ => none

def searchFrom (p : Program) (before : Option Char) : List Char → Option Captured × Spot
  | [] =>
    let spot : Spot := ⟨before, none, p.emptyColumn⟩
    (p.outcome spot 0, spot)
  | c :: rest =>
    let (later, next) := searchFrom p (some c) rest
    let spot : Spot := ⟨before, some c, p.column c next⟩
    (match p.outcome spot 0 with
      | some found => some found
      | none => later, spot)

/-- The match that starts first on a line, and of those the preferred one. -/
def search (p : Program) (line : List Char) : Option Captured :=
  (p.searchFrom none line).1

end Program

end PublishGate.Pattern
