import PublishGate.Pattern.Search

/-! # What an expression matches

A match is read from its end to its start, as the search reads it: what is captured behind a part
of an expression and what is captured in front of it belong together. -/

namespace PublishGate.Pattern

/-- A place on a line: the character before it, if any, and the rest of the line. -/
structure Point where
  before : Option Char
  rest : List Char
  deriving DecidableEq, Repr

namespace Point

def after (P : Point) : Option Char := P.rest.head?

def behind (lead rest : List Char) : Point := ⟨lead.getLast?, rest⟩

end Point

/-- `e.Matches P Q r r'`: the expression matches from `P` to `Q`, and what has captured `r` behind
`Q` has captured `r'` behind `P`. -/
inductive Expr.Matches : Expr → Point → Point → Captured → Captured → Prop
  | empty {P r} : Matches .empty P P r r
  | chars {set before c rest r} : set.contains c = true →
      Matches (.chars set) ⟨before, c :: rest⟩ ⟨some c, rest⟩ r (r.taking c)
  | look {l P r} : l.holds P.before P.after = true → Matches (.look l) P P r r
  | group {k e P Q r s} : Matches e P Q r.closing s → Matches (.group k e) P Q r s.opening
  | seq {a b P Q R r s t} : Matches a P Q s t → Matches b Q R r s → Matches (.seq a b) P R r t
  | altLeft {a b P Q r s} : Matches a P Q r s → Matches (.alt a b) P Q r s
  | altRight {a b P Q r s} : Matches b P Q r s → Matches (.alt a b) P Q r s
  | optionalNone {greedy e P r} : Matches (.optional greedy e) P P r r
  | optionalSome {greedy e P Q r s} : Matches e P Q r s → Matches (.optional greedy e) P Q r s
  | plus {greedy e P Q R r s t} : Matches e P Q s t → Matches (.star greedy e) Q R r s →
      Matches (.plus greedy e) P R r t
  | starNone {greedy e P r} : Matches (.star greedy e) P P r r
  | starMore {greedy e P Q R r s t} : Matches e P Q s t → Matches (.star greedy e) Q R r s →
      Matches (.star greedy e) P R r t

/-- The group has been entered from its end and not been left at its start. -/
def Captured.IsOpen : Captured → Prop
  | .partly _ => True
  | _ => False

theorem Captured.not_isOpen_opening (r : Captured) : ¬ r.opening.IsOpen := by
  cases r <;> simp [Captured.opening, Captured.IsOpen]

theorem Captured.taking_of_not_isOpen {r : Captured} (h : ¬ r.IsOpen) (c : Char) :
    r.taking c = r := by
  cases r with
  | nothing => rfl
  | partly t => exact absurd trivial h
  | text t => rfl

namespace Expr

/-- Groups are closed within the expression that opens them. -/
theorem Matches.not_isOpen {e : Expr} {P Q : Point} {r s : Captured} (h : e.Matches P Q r s)
    (hr : ¬ r.IsOpen) : ¬ s.IsOpen := by
  induction h with
  | empty => exact hr
  | chars _ => rwa [Captured.taking_of_not_isOpen hr]
  | look _ => exact hr
  | group _ _ => exact Captured.not_isOpen_opening _
  | seq _ _ iha ihb => exact iha (ihb hr)
  | altLeft _ ih => exact ih hr
  | altRight _ ih => exact ih hr
  | optionalNone => exact hr
  | optionalSome _ ih => exact ih hr
  | plus _ _ ih ihs => exact ih (ihs hr)
  | starNone => exact hr
  | starMore _ _ ih ihs => exact ih (ihs hr)

def MatchesAt (e : Expr) (P : Point) (r : Captured) : Prop :=
  ∃ Q, e.Matches P Q .nothing r

def MatchesIn (e : Expr) (line : List Char) : Prop :=
  ∃ lead rest r, line = lead ++ rest ∧ e.MatchesAt (.behind lead rest) r

theorem MatchesAt.eq_nothing_or_text {e : Expr} {P : Point} {r : Captured}
    (h : e.MatchesAt P r) : r = .nothing ∨ ∃ t, r = .text t := by
  obtain ⟨Q, h⟩ := h
  have hr : ¬ r.IsOpen := h.not_isOpen id
  cases r with
  | nothing => exact .inl rfl
  | partly t => exact absurd trivial hr
  | text t => exact .inr ⟨t, rfl⟩

end Expr

end PublishGate.Pattern
