import PublishGate.Pattern.Program
import PublishGate.Proofs.Pattern.Matching

/-! # The ways through a program

A way leads from a step of a program at some place on a line to a match. The ways through the steps
of an expression are the matches of the expression, followed by a way from where the steps go on. -/

namespace PublishGate.Pattern

namespace Step

def onward (before after : Option Char) : Step → List Nat
  | .accept => []
  | .jump next => [next]
  | .take _ _ => []
  | .check l next => if l.holds before after then [next] else []
  | .fork first second => [first, second]
  | .groupStart next => [next]
  | .groupEnd next => [next]

def change : Step → Captured → Captured
  | .accept => id
  | .jump _ => id
  | .take _ _ => id
  | .check _ _ => id
  | .fork _ _ => id
  | .groupStart _ => Captured.opening
  | .groupEnd _ => Captured.closing

def IsSilent : Step → Prop
  | .accept => False
  | .take _ _ => False
  | _ => True

variable {greedy : Bool} {again leave j : Nat} {before after : Option Char}

theorem isSilent_loop : (loop greedy again leave).IsSilent := by
  cases greedy <;> trivial

theorem mem_onward_loop :
    j ∈ (loop greedy again leave).onward before after ↔ j = again ∨ j = leave := by
  cases greedy
  · simp [loop, onward, or_comm]
  · simp [loop, onward]

theorem change_loop (r : Captured) : (loop greedy again leave).change r = r := by
  cases greedy <;> rfl

end Step

theorem Expr.length_steps (e : Expr) (place next : Nat) :
    (e.steps place next).length = e.size := by
  induction e generalizing place next with
  | empty => rfl
  | chars set => rfl
  | look l => rfl
  | group k e ih => simp [steps, size, ih]
  | seq a b iha ihb => simp [steps, size, iha, ihb]
  | alt a b iha ihb => simp [steps, size, iha, ihb]
  | optional greedy e ih => simp [steps, size, ih]
  | plus greedy e ih => simp [steps, size, ih]
  | star greedy e ih =>
    by_cases h : e.mayTakeNothing = true
    · simp [steps, size, ih, h]
    · simp [steps, size, ih, h]

namespace Program

/-- `p.Way n i P r`: from step `i` at `P` there is a way of `n` steps to a match that captures
`r` on it. -/
inductive Way (p : Program) : Nat → Nat → Point → Captured → Prop
  | accept {i P} : p.steps[i]? = some .accept → Way p 0 i P .nothing
  | silent {n i j s P r} : p.steps[i]? = some s → j ∈ s.onward P.before P.after →
      Way p n j P r → Way p (n + 1) i P (s.change r)
  | take {n i j set before c rest r} : p.steps[i]? = some (.take set j) →
      set.contains c = true → Way p n j ⟨some c, rest⟩ r →
      Way p (n + 1) i ⟨before, c :: rest⟩ (r.taking c)

def Leads (p : Program) (i : Nat) (P : Point) (r : Captured) : Prop :=
  ∃ n, p.Way n i P r

def Holds (p : Program) (place : Nat) (code : List Step) : Prop :=
  ∀ k s, code[k]? = some s → p.steps[place + k]? = some s

variable {p : Program} {n i j place next again back leave : Nat} {P Q : Point} {r s t : Captured}
variable {code rest : List Step} {step : Step} {e : Expr} {greedy : Bool}

theorem Holds.left (h : p.Holds place (code ++ rest)) : p.Holds place code := by
  intro k s hk
  obtain ⟨hlt, _⟩ := List.getElem?_eq_some_iff.mp hk
  exact h k s (by rw [List.getElem?_append_left hlt, hk])

theorem Holds.right (h : p.Holds place (code ++ rest)) : p.Holds (place + code.length) rest := by
  intro k s hk
  rw [Nat.add_assoc]
  exact h _ s (by rw [List.getElem?_append_right (by omega), Nat.add_sub_cancel_left, hk])

/-- The steps after those of an expression. -/
theorem Holds.behind {entry : Nat} (h : p.Holds place (e.steps entry next ++ code)) :
    p.Holds (place + e.size) code := by
  rw [← Expr.length_steps e entry next]
  exact h.right

theorem Holds.first (h : p.Holds place (step :: code)) : p.steps[place]? = some step :=
  h 0 step rfl

theorem Holds.tail (h : p.Holds place (step :: code)) : p.Holds (place + 1) code := by
  intro k s hk
  rw [Nat.add_assoc, Nat.add_comm 1 k]
  exact h (k + 1) s hk

/-! ## One step -/

theorem Way.of_silent (h : p.Way n i P t) (hi : p.steps[i]? = some step)
    (hs : step.IsSilent) :
    ∃ m j r, n = m + 1 ∧ j ∈ step.onward P.before P.after ∧ p.Way m j P r ∧ t = step.change r := by
  cases h with
  | accept h =>
    obtain rfl := Option.some.inj (hi.symm.trans h)
    exact hs.elim
  | silent h hj hw =>
    obtain rfl := Option.some.inj (hi.symm.trans h)
    exact ⟨_, _, _, rfl, hj, hw, rfl⟩
  | take h =>
    obtain rfl := Option.some.inj (hi.symm.trans h)
    exact hs.elim

theorem Way.of_take {set : Charset} (h : p.Way n i P t) (hi : p.steps[i]? = some (.take set j)) :
    ∃ m before c rest r, n = m + 1 ∧ P = ⟨before, c :: rest⟩ ∧ set.contains c = true ∧
      p.Way m j ⟨some c, rest⟩ r ∧ t = r.taking c := by
  cases h with
  | accept h => simp [hi] at h
  | silent h hj _ =>
    obtain rfl := Option.some.inj (hi.symm.trans h)
    simp [Step.onward] at hj
  | take h hc hw =>
    obtain ⟨rfl, rfl⟩ := Step.take.inj (Option.some.inj (hi.symm.trans h))
    exact ⟨_, _, _, _, _, rfl, rfl, hc, hw, rfl⟩

theorem leads_of_onward (hi : p.steps[i]? = some step) (hj : j ∈ step.onward P.before P.after)
    (h : p.Leads j P r) : p.Leads i P (step.change r) := by
  obtain ⟨n, hw⟩ := h
  exact ⟨n + 1, .silent hi hj hw⟩

/-! ## From matches to ways -/

theorem leads_of_loop (hi : p.steps[back]? = some (.loop greedy again leave))
    (h : p.Leads again P r ∨ p.Leads leave P r) : p.Leads back P r := by
  rw [← Step.change_loop r]
  rcases h with h | h
  · exact leads_of_onward hi (Step.mem_onward_loop.mpr (.inl rfl)) h
  · exact leads_of_onward hi (Step.mem_onward_loop.mpr (.inr rfl)) h

/-- A loop goes round as often as its body matches. -/
theorem leads_of_matches_star (hi : p.steps[back]? = some (.loop greedy again leave))
    (body : ∀ P Q r s, e.Matches P Q r s → p.Leads back Q r → p.Leads again P s)
    (hm : (Expr.star greedy e).Matches P Q r s) (hl : p.Leads leave Q r) : p.Leads back P s := by
  generalize he : Expr.star greedy e = star at hm
  induction hm with
  | starNone => exact leads_of_loop hi (.inr hl)
  | starMore hb _ _ ih =>
    obtain ⟨rfl, rfl⟩ := Expr.star.inj he
    exact leads_of_loop hi (.inl (body _ _ _ _ hb (ih hl he)))
  | _ => simp at he

theorem leads_of_matches (h : p.Holds place (e.steps place next)) (hm : e.Matches P Q r s)
    (hl : p.Leads next Q r) : p.Leads place P s := by
  induction e generalizing place next P Q r s with
  | empty =>
    cases hm with
    | empty => exact leads_of_onward h.first (by simp [Step.onward]) hl
  | chars set =>
    cases hm with
    | chars hc =>
      obtain ⟨n, hw⟩ := hl
      exact ⟨n + 1, .take h.first hc hw⟩
  | look l =>
    cases hm with
    | look hc => exact leads_of_onward h.first (by simp [Step.onward, hc]) hl
  | group k e ih =>
    have hend := h.tail.behind.first
    cases hm with
    | group hb =>
      have hclose := leads_of_onward hend (by simp [Step.onward]) hl
      have hopen := ih h.tail.left hb hclose
      exact leads_of_onward h.first (by simp [Step.onward]) hopen
  | seq a b iha ihb =>
    have hb := h.behind
    cases hm with
    | seq hma hmb => exact iha h.left hma (ihb hb hmb hl)
  | alt a b iha ihb =>
    have hb := h.tail.behind
    cases hm with
    | altLeft hm =>
      exact leads_of_onward h.first (by simp [Step.onward]) (iha h.tail.left hm hl)
    | altRight hm =>
      exact leads_of_onward h.first (by simp [Step.onward]) (ihb hb hm hl)
  | optional greedy e ih =>
    cases hm with
    | optionalNone => exact leads_of_loop h.first (.inr hl)
    | optionalSome hm => exact leads_of_loop h.first (.inl (ih h.tail hm hl))
  | plus greedy e ih =>
    have hback := h.behind.first
    cases hm with
    | plus hb hs =>
      exact ih h.left hb (leads_of_matches_star hback (fun _ _ _ _ hm => ih h.left hm) hs hl)
  | star greedy e ih =>
    by_cases hn : e.mayTakeNothing = true
    · simp only [Expr.steps, hn, if_true] at h
      have hback := h.tail.behind.first
      cases hm with
      | starNone => exact leads_of_loop h.first (.inr hl)
      | starMore hb hs =>
        have hrest := leads_of_matches_star hback (fun _ _ _ _ hm => ih h.tail.left hm) hs hl
        exact leads_of_loop h.first (.inl (ih h.tail.left hb hrest))
    · simp only [Expr.steps, hn, if_false, Bool.false_eq_true] at h
      exact leads_of_matches_star h.first (fun _ _ _ _ hm => ih h.tail hm) hm hl

/-! ## From ways to matches -/

/-- Every way that begins at `place` passes `next`, and matches `e` on the way there. -/
def Runs (p : Program) (place next : Nat) (e : Expr) : Prop :=
  ∀ n P t, p.Way n place P t → ∃ m Q r, m < n ∧ p.Way m next Q r ∧ e.Matches P Q r t

theorem of_loop (hi : p.steps[back]? = some (.loop greedy again leave)) (h : p.Way n back P t) :
    ∃ m, n = m + 1 ∧ (p.Way m again P t ∨ p.Way m leave P t) := by
  obtain ⟨m, j, r, rfl, hj, hw, rfl⟩ := h.of_silent hi Step.isSilent_loop
  rw [Step.change_loop]
  rcases Step.mem_onward_loop.mp hj with rfl | rfl
  · exact ⟨m, rfl, .inl hw⟩
  · exact ⟨m, rfl, .inr hw⟩

/-- A way cannot go round a loop forever: each round is some steps shorter. -/
theorem runs_star (hi : p.steps[back]? = some (.loop greedy again leave))
    (body : p.Runs again back e) : p.Runs back leave (.star greedy e) := by
  intro n
  induction n using Nat.strongRecOn with
  | ind n ih =>
    intro P t hw
    obtain ⟨m, rfl, hw | hw⟩ := of_loop hi hw
    · obtain ⟨m', M, s, hlt, hback, hb⟩ := body m P t hw
      obtain ⟨m'', Q, r, hlt', hleave, hs⟩ := ih m' (by omega) M s hback
      exact ⟨m'', Q, r, by omega, hleave, .starMore hb hs⟩
    · exact ⟨m, P, t, by omega, hw, .starNone⟩

theorem runs_of_holds (h : p.Holds place (e.steps place next)) : p.Runs place next e := by
  induction e generalizing place next with
  | empty =>
    intro n P t hw
    obtain ⟨m, j, r, rfl, hj, hw, rfl⟩ := hw.of_silent h.first trivial
    obtain rfl : j = next := by simpa [Step.onward] using hj
    exact ⟨m, P, t, by omega, hw, .empty⟩
  | chars set =>
    intro n P t hw
    obtain ⟨m, before, c, rest, r, rfl, rfl, hc, hw', rfl⟩ := hw.of_take h.first
    exact ⟨m, ⟨some c, rest⟩, r, by omega, hw', .chars hc⟩
  | look l =>
    intro n P t hw
    obtain ⟨m, j, r, rfl, hj, hw, rfl⟩ := hw.of_silent h.first trivial
    by_cases hc : l.holds P.before P.after = true
    · obtain rfl : j = next := by simpa [Step.onward, hc] using hj
      exact ⟨m, P, t, by omega, hw, .look hc⟩
    · simp [Step.onward, hc] at hj
  | group k e ih =>
    have hend := h.tail.behind.first
    intro n P t hw
    obtain ⟨m, j, s, rfl, hj, hw, rfl⟩ := hw.of_silent h.first trivial
    obtain rfl : j = place + 1 := by simpa [Step.onward] using hj
    obtain ⟨m', Q, s', hlt, hw, hb⟩ := ih h.tail.left m P s hw
    obtain ⟨m'', j, r, rfl, hj, hw', rfl⟩ := hw.of_silent hend trivial
    obtain rfl : j = next := by simpa [Step.onward] using hj
    exact ⟨m'', Q, r, by omega, hw', .group hb⟩
  | seq a b iha ihb =>
    have hb := h.behind
    intro n P t hw
    obtain ⟨m, Q, s, hlt, hw, hma⟩ := iha h.left n P t hw
    obtain ⟨m', R, r, hlt', hw, hmb⟩ := ihb hb m Q s hw
    exact ⟨m', R, r, by omega, hw, .seq hma hmb⟩
  | alt a b iha ihb =>
    have hb := h.tail.behind
    intro n P t hw
    obtain ⟨m, j, s, rfl, hj, hw, rfl⟩ := hw.of_silent h.first trivial
    have hj : j = place + 1 ∨ j = place + 1 + a.size := by simpa [Step.onward] using hj
    rcases hj with rfl | rfl
    · obtain ⟨m', Q, r, hlt, hw, hm⟩ := iha h.tail.left m P t hw
      exact ⟨m', Q, r, by omega, hw, .altLeft hm⟩
    · obtain ⟨m', Q, r, hlt, hw, hm⟩ := ihb hb m P t hw
      exact ⟨m', Q, r, by omega, hw, .altRight hm⟩
  | optional greedy e ih =>
    intro n P t hw
    obtain ⟨m, rfl, hw | hw⟩ := of_loop h.first hw
    · obtain ⟨m', Q, r, hlt, hw, hm⟩ := ih h.tail m P t hw
      exact ⟨m', Q, r, by omega, hw, .optionalSome hm⟩
    · exact ⟨m, P, t, by omega, hw, .optionalNone⟩
  | plus greedy e ih =>
    have hback := h.behind.first
    intro n P t hw
    obtain ⟨m, Q, s, hlt, hw, hb⟩ := ih h.left n P t hw
    obtain ⟨m', R, r, hlt', hw, hs⟩ := runs_star hback (ih h.left) m Q s hw
    exact ⟨m', R, r, by omega, hw, .plus hb hs⟩
  | star greedy e ih =>
    by_cases hn : e.mayTakeNothing = true
    · simp only [Expr.steps, hn, if_true] at h
      have hback := h.tail.behind.first
      intro n P t hw
      obtain ⟨m, rfl, hw | hw⟩ := of_loop h.first hw
      · obtain ⟨m', Q, s, hlt, hw, hb⟩ := ih h.tail.left m P t hw
        obtain ⟨m'', R, r, hlt', hw, hs⟩ := runs_star hback (ih h.tail.left) m' Q s hw
        exact ⟨m'', R, r, by omega, hw, .starMore hb hs⟩
      · exact ⟨m, P, t, by omega, hw, .starNone⟩
    · simp only [Expr.steps, hn, if_false, Bool.false_eq_true] at h
      exact runs_star h.first (ih h.tail)

/-! ## Whole programs -/

theorem holds_ofExpr (e : Expr) : (ofExpr e).Holds 0 (e.steps 0 e.size ++ [.accept]) := by
  intro k s hk
  simpa [ofExpr] using hk

/-- The ways through the program of an expression are the matches of the expression. -/
theorem leads_ofExpr_iff : (ofExpr e).Leads 0 P r ↔ e.MatchesAt P r := by
  have hends := (holds_ofExpr e).behind.first
  rw [Nat.zero_add] at hends
  constructor
  · rintro ⟨n, hw⟩
    obtain ⟨m, Q, s, -, hw, hm⟩ := runs_of_holds (holds_ofExpr e).left n P r hw
    cases hw with
    | accept _ => exact ⟨Q, hm⟩
    | silent hi hj _ => 
      obtain rfl := Option.some.inj (hends.symm.trans hi)
      simp [Step.onward] at hj
    | take hi _ _ => simp [hends] at hi
  · rintro ⟨Q, hm⟩
    exact leads_of_matches (holds_ofExpr e).left hm ⟨0, .accept hends⟩

end Program

end PublishGate.Pattern
