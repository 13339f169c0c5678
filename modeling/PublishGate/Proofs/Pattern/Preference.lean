import Mathlib.Logic.Relation
import PublishGate.Proofs.Pattern.FirstMatch

/-! # What backtracking on an expression prefers

Where each round of a loop takes a character, the steps of a program can be forgotten: what the
search finds is what backtracking on the expression itself comes to first. -/

namespace PublishGate.Pattern

/-! ## Backtracking on expressions -/

namespace Expr

/-- Every loop goes round something that takes a character. -/
def isSteady : Expr → Bool
  | .empty => true
  | .chars _ => true
  | .look _ => true
  | .group _ e => e.isSteady
  | .seq a b => a.isSteady && b.isSteady
  | .alt a b => a.isSteady && b.isSteady
  | .optional _ e => e.isSteady
  | .plus _ e => !e.mayTakeNothing && e.isSteady
  | .star _ e => !e.mayTakeNothing && e.isSteady

theorem body_of_isSteady {e : Expr} (h : (!e.mayTakeNothing && e.isSteady) = true) :
    e.mayTakeNothing = false ∧ e.isSteady = true := by
  simpa using h

def prefer (greedy : Bool) (again leave : Option Captured) : Option Captured :=
  if greedy then again.or leave else leave.or again

/-- What rounds of a loop come to when `go` tells what comes of leaving it. The count bounds what is
left of the line, of which each round takes a part. -/
def looped (greedy : Bool) (body : (Point → Option Captured) → Point → Option Captured)
    (go : Point → Option Captured) : Nat → Point → Option Captured
  | 0, _ => none
  | n + 1, P => prefer greedy (body (looped greedy body go n) P) (go P)

/-- What the match that backtracking prefers captures, when `go` tells what comes of going on behind
the expression. -/
def first : Expr → (Point → Option Captured) → Point → Option Captured
  | .empty, go, P => go P
  | .chars set, go, P =>
    match P.rest with
    | [] => none
    | c :: rest => if set.contains c then (go ⟨some c, rest⟩).map (Captured.taking c) else none
  | .look l, go, P => if l.holds P.before P.after then go P else none
  | .group _ e, go, P => (e.first (fun Q => (go Q).map Captured.closing) P).map Captured.opening
  | .seq a b, go, P => a.first (b.first go) P
  | .alt a b, go, P => (a.first go P).or (b.first go P)
  | .optional greedy e, go, P => prefer greedy (e.first go P) (go P)
  | .plus greedy e, go, P => e.first (looped greedy e.first go P.rest.length) P
  | .star greedy e, go, P => looped greedy e.first go (P.rest.length + 1) P

def whole (e : Expr) (P : Point) : Option Captured :=
  e.first (fun _ => some .nothing) P

def least (e : Expr) : Nat :=
  if e.mayTakeNothing then 0 else 1

theorem least_seq_le (a b : Expr) : (seq a b).least ≤ b.least + a.least := by
  cases ha : a.mayTakeNothing <;> cases hb : b.mayTakeNothing <;>
    simp [least, mayTakeNothing, ha, hb]

theorem least_alt_le (a b : Expr) : (alt a b).least ≤ a.least ∧ (alt a b).least ≤ b.least := by
  cases ha : a.mayTakeNothing <;> cases hb : b.mayTakeNothing <;>
    simp [least, mayTakeNothing, ha, hb]

end Expr

namespace Program

variable {p : Program} {o : Outlook} {n m i j place next again back leave : Nat} {P : Point}
variable {trail : List Nat} {s : Step} {e : Expr} {greedy : Bool} {go : Point → Option Captured}

/-! ## Programs whose ways come to an end -/

def Follows (p : Program) (j i : Nat) : Prop :=
  ∃ s before after, p.steps[i]? = some s ∧ j ∈ s.onward before after

/-- No way from step `i` goes on forever without taking a character. -/
def Settles (p : Program) (i : Nat) : Prop :=
  Acc p.Follows i

theorem settles_of_onward (hs : p.steps[i]? = some s)
    (h : ∀ before after, ∀ j ∈ s.onward before after, p.Settles j) : p.Settles i := by
  refine ⟨i, ?_⟩
  rintro j ⟨s', before, after, hs', hj⟩
  obtain rfl := Option.some.inj (hs.symm.trans hs')
  exact h before after j hj

theorem settles_of_loop (hs : p.steps[back]? = some (.loop greedy again leave))
    (hagain : p.Settles again) (hleave : p.Settles leave) : p.Settles back := by
  apply settles_of_onward hs
  intro before after j hj
  rcases Step.mem_onward_loop.mp hj with rfl | rfl
  · exact hagain
  · exact hleave

theorem Settles.not_comes_back (h : p.Settles i) : ¬ Relation.TransGen p.Follows i i := by
  induction h with
  | intro i _ ih =>
    intro hback
    obtain ⟨j, hji, hj⟩ := Relation.TransGen.tail'_iff.mp hback
    exact ih j hj (Relation.TransGen.head' hj hji)

/-- Steady expressions settle at once if they take a character, and else when what follows them
does. -/
theorem settles_of_holds (he : e.isSteady = true) (h : p.Holds place (e.steps place next))
    (hnext : e.mayTakeNothing = true → p.Settles next) : p.Settles place := by
  induction e generalizing place next with
  | empty =>
    apply settles_of_onward h.first
    intro _ _ j hj
    obtain rfl : j = next := by simpa [Step.onward] using hj
    exact hnext rfl
  | chars set =>
    apply settles_of_onward h.first
    simp [Step.onward]
  | look l =>
    apply settles_of_onward h.first
    intro _ _ j hj
    obtain ⟨-, rfl⟩ : _ ∧ j = next := by simpa [Step.onward] using hj
    exact hnext rfl
  | group k e ih =>
    have hend := h.tail.behind.first
    apply settles_of_onward h.first
    intro _ _ j hj
    obtain rfl : j = place + 1 := by simpa [Step.onward] using hj
    apply ih he h.tail.left
    intro hn
    apply settles_of_onward hend
    intro _ _ j hj
    obtain rfl : j = next := by simpa [Step.onward] using hj
    exact hnext hn
  | seq a b iha ihb =>
    obtain ⟨hea, heb⟩ := Bool.and_eq_true_iff.mp he
    have hb := h.behind
    exact iha hea h.left fun hna => ihb heb hb fun hnb => hnext (Bool.and_eq_true_iff.mpr ⟨hna, hnb⟩)
  | alt a b iha ihb =>
    obtain ⟨hea, heb⟩ := Bool.and_eq_true_iff.mp he
    have hb := h.tail.behind
    apply settles_of_onward h.first
    intro _ _ j hj
    have hj : j = place + 1 ∨ j = place + 1 + a.size := by simpa [Step.onward] using hj
    rcases hj with rfl | rfl
    · exact iha hea h.tail.left fun hn => hnext (Bool.or_eq_true_iff.mpr (.inl hn))
    · exact ihb heb hb fun hn => hnext (Bool.or_eq_true_iff.mpr (.inr hn))
  | optional greedy e ih =>
    exact settles_of_loop h.first (ih he h.tail fun _ => hnext rfl) (hnext rfl)
  | plus greedy e ih =>
    obtain ⟨hn, he⟩ := Expr.body_of_isSteady he
    exact ih he h.left fun hn' => by simp [hn] at hn'
  | star greedy e ih =>
    obtain ⟨hn, he⟩ := Expr.body_of_isSteady he
    simp only [Expr.steps, hn, Bool.false_eq_true, if_false] at h
    have hbody : p.Settles (place + 1) := ih he h.tail fun hn' => by simp [hn] at hn'
    exact settles_of_loop h.first hbody (hnext rfl)

/-! ## The first attempt, step by step -/

/-- A trail that a settled step comes after is of no account, since no way leads back to it. -/
theorem tries_of_settles (h : p.Settles i) (hroom : p.Room n trail)
    (htrail : ∀ t ∈ trail, Relation.TransGen p.Follows i t) :
    p.tries o n trail i = p.tries o (p.steps.size + 1) [] i := by
  induction h generalizing n trail with
  | intro i hi ih =>
    have hset : p.Settles i := .intro i hi
    have hnew : i ∉ trail := fun hm => hset.not_comes_back (htrail i hm)
    cases n with
    | zero => exact absurd rfl hroom.ne_zero
    | succ n =>
      cases hs : p.steps[i]? with
      | none => rw [tries_of_none hs, tries_of_none hs]
      | some s =>
        rw [tries_of_some hnew hs, tries_of_some List.not_mem_nil hs]
        congr 2
        refine List.flatMap_congr fun j hj => ?_
        have hj : p.Follows j i := ⟨s, _, _, hs, hj⟩
        have hpush := ih j hj (hroom.push hnew hs) (List.forall_mem_cons.mpr
          ⟨.single hj, fun t ht => .head hj (htrail t ht)⟩)
        have hbare := ih j hj ((room_nil p).push List.not_mem_nil hs) (by simpa using .single hj)
        rw [hpush, hbare]

/-- What the match that backtracking prefers captures, going on from step `i` at `P`. -/
def first (p : Program) (P : Point) (i : Nat) : Option Captured :=
  (p.attempts P.before P.rest i).head?

/-- Backtracking goes through what may follow a settled step, the preferred step first. -/
theorem first_of_settles (h : p.Settles i) (hs : p.steps[i]? = some s) :
    p.first P i = (s.ending (p.outlook P)).head?.or
      (((s.onward P.before P.after).findSome? (p.first P)).map s.change) := by
  have hfollowers : (s.followers (p.outlook P)).flatMap (p.tries (p.outlook P) p.steps.size [i]) =
      (s.onward P.before P.after).flatMap (p.attempts P.before P.rest) := by
    refine List.flatMap_congr fun j hj => ?_
    have hj : p.Follows j i := ⟨s, _, _, hs, hj⟩
    rw [attempts_eq_tries, tries_of_settles (h.inv hj)
      ((room_nil p).push List.not_mem_nil hs) (by simpa using .single hj)]
  rw [first, attempts_eq_tries, tries_of_some List.not_mem_nil hs, hfollowers, List.head?_append,
    List.head?_map, List.head?_flatMap]
  rfl

theorem first_of_accept (hs : p.steps[i]? = some .accept) : p.first P i = some .nothing := by
  have hset : p.Settles i := settles_of_onward hs (by simp [Step.onward])
  rw [first_of_settles hset hs]
  rfl

theorem first_of_take {set : Charset} (hs : p.steps[i]? = some (.take set next)) :
    p.first P i = (Expr.chars set).first (p.first · next) P := by
  have hset : p.Settles i := settles_of_onward hs (by simp [Step.onward])
  rw [first_of_settles hset hs]
  obtain ⟨before, rest⟩ := P
  cases rest with
  | nil => rfl
  | cons c rest =>
    by_cases hc : set.contains c = true
    · simp [Step.ending, Step.onward, outlook, Expr.first, hc, first]
    · simp [Step.ending, Step.onward, outlook, Expr.first, hc]

theorem findSome?_pair {α β : Type} (f : α → Option β) (a b : α) :
    [a, b].findSome? f = (f a).or (f b) := by
  cases h : f a <;> simp [h]

theorem first_of_loop (hset : p.Settles i) (hs : p.steps[i]? = some (.loop greedy again leave)) :
    p.first P i = Expr.prefer greedy (p.first P again) (p.first P leave) := by
  rw [first_of_settles hset hs]
  cases greedy <;> simp [Step.loop, Step.ending, Step.onward, Step.change, Expr.prefer, findSome?_pair]

/-- A loop whose body takes a character goes its rounds. -/
theorem first_eq_looped {body : (Point → Option Captured) → Point → Option Captured}
    (hs : p.steps[back]? = some (.loop greedy again leave)) (hset : p.Settles back)
    (hbody : ∀ n go (Q : Point), (∀ R : Point, R.rest.length < n → p.first R back = go R) →
      Q.rest.length < n + 1 → p.first Q again = body go Q)
    (hgo : ∀ Q : Point, Q.rest.length < m → p.first Q leave = go Q)
    (hn : P.rest.length < n) (hm : P.rest.length < m) :
    p.first P back = Expr.looped greedy body go n P := by
  induction n generalizing P with
  | zero => exact absurd hn (Nat.not_lt_zero _)
  | succ n ih =>
    rw [first_of_loop hset hs, hgo P hm, Expr.looped]
    congr 1
    refine hbody P.rest.length _ P ?_ (Nat.lt_succ_self _)
    intro R hR
    exact ih (by omega) (by omega)

/-- The steps of a steady expression do what backtracking on the expression does. What follows need
be known only of the lines that the expression can leave. -/
theorem first_of_holds (he : e.isSteady = true) (h : p.Holds place (e.steps place next))
    (hnext : p.Settles next) (hgo : ∀ Q : Point, Q.rest.length < m → p.first Q next = go Q)
    (hP : P.rest.length < m + e.least) : p.first P place = e.first go P := by
  -- the bound `m` is what lets a loop be its own continuation: its body takes a character
  induction e generalizing place next m go P with
  | empty =>
    have hset := settles_of_holds he h fun _ => hnext
    rw [first_of_settles hset h.first]
    simpa [Step.ending, Step.onward, Step.change, Expr.first] using hgo P hP
  | chars set =>
    rw [first_of_take h.first]
    obtain ⟨before, rest⟩ := P
    cases rest with
    | nil => rfl
    | cons c rest =>
      have hrest : rest.length < m := Nat.lt_of_succ_lt_succ hP
      simp only [Expr.first, hgo ⟨some c, rest⟩ hrest]
  | look l =>
    have hset := settles_of_holds he h fun _ => hnext
    rw [first_of_settles hset h.first, Expr.first, ← hgo P hP]
    by_cases hl : l.holds P.before P.after = true
    · simp [Step.ending, Step.onward, Step.change, hl]
    · simp [Step.ending, Step.onward, hl]
  | group k e ih =>
    have hend := h.tail.behind.first
    have hset := settles_of_holds he h fun _ => hnext
    have hsetEnd : p.Settles (place + 1 + e.size) :=
      settles_of_onward hend (by simpa [Step.onward] using hnext)
    have hbody : p.first P (place + 1) = e.first (fun Q => (go Q).map Captured.closing) P := by
      refine ih he h.tail.left hsetEnd ?_ hP
      intro Q hQ
      rw [first_of_settles hsetEnd hend]
      simp [Step.ending, Step.onward, Step.change, hgo Q hQ]
    rw [first_of_settles hset h.first, Expr.first, ← hbody]
    simp [Step.ending, Step.onward, Step.change]
  | seq a b iha ihb =>
    obtain ⟨hea, heb⟩ := Bool.and_eq_true_iff.mp he
    have hb := h.behind
    have hle := Expr.least_seq_le a b
    refine iha hea h.left (settles_of_holds heb hb fun _ => hnext) (m := m + b.least) ?_ (by omega)
    intro Q hQ
    exact ihb heb hb hnext hgo hQ
  | alt a b iha ihb =>
    obtain ⟨hea, heb⟩ := Bool.and_eq_true_iff.mp he
    have hb := h.tail.behind
    have hset := settles_of_holds he h fun _ => hnext
    obtain ⟨hlea, hleb⟩ := Expr.least_alt_le a b
    rw [first_of_settles hset h.first, Expr.first, ← iha hea h.tail.left hnext hgo (by omega),
      ← ihb heb hb hnext hgo (by omega)]
    simp [Step.ending, Step.onward, Step.change, findSome?_pair]
  | optional greedy e ih =>
    have hset := settles_of_holds he h fun _ => hnext
    have hP : P.rest.length < m := hP
    rw [first_of_loop hset h.first, Expr.first, ih he h.tail hnext hgo (by omega), hgo P hP]
  | plus greedy e ih =>
    obtain ⟨hn, he⟩ := Expr.body_of_isSteady he
    have hback := h.behind.first
    have hset : p.Settles (place + e.size) := by
      refine settles_of_loop hback (settles_of_holds he h.left fun hn' => ?_) hnext
      simp [hn] at hn'
    have hleast : e.least = 1 := by simp [Expr.least, hn]
    have hP : P.rest.length < m + 1 := by simpa [Expr.least, Expr.mayTakeNothing, hn] using hP
    -- a first round leaves a shorter line, and on that the loop goes its rounds
    refine ih he h.left hset (m := P.rest.length) ?_ (by omega)
    intro Q hQ
    refine first_eq_looped hback hset ?_ hgo hQ (by omega)
    intro n go R hR hlt
    exact ih he h.left hset hR (by omega)
  | star greedy e ih =>
    have hset := settles_of_holds he h fun _ => hnext
    obtain ⟨hn, he⟩ := Expr.body_of_isSteady he
    have hleast : e.least = 1 := by simp [Expr.least, hn]
    simp only [Expr.steps, hn, Bool.false_eq_true, if_false] at h
    refine first_eq_looped h.first hset ?_ hgo (Nat.lt_succ_self _) hP
    intro n go R hR hlt
    exact ih he h.tail hset hR (by omega)

end Program

namespace Expr

variable {e : Expr} {P : Point} {line : List Char} {r : Captured}

theorem first_ofExpr (he : e.isSteady = true) : (Program.ofExpr e).first P 0 = e.whole P := by
  have hends := (Program.holds_ofExpr e).behind.first
  rw [Nat.zero_add] at hends
  have hset := Program.settles_of_onward hends (by simp [Step.onward])
  exact Program.first_of_holds he (Program.holds_ofExpr e).left hset
    (fun _ _ => Program.first_of_accept hends) (Nat.lt_add_right _ (Nat.lt_succ_self _))

theorem whole_eq_none_iff (he : e.isSteady = true) :
    e.whole P = none ↔ ∀ s, ¬ e.MatchesAt P s := by
  rw [← first_ofExpr he, Program.first, List.head?_eq_none_iff, Program.attempts_eq_nil_iff]
  simp only [Program.leads_ofExpr_iff]

/-- The first match on a line is what backtracking prefers at the first place where it comes to
anything. -/
theorem firstMatch_iff (he : e.isSteady = true) :
    e.FirstMatch line r ↔
      ∃ lead rest, line = lead ++ rest ∧ e.whole (.behind lead rest) = some r ∧
        ∀ a b, line = a ++ b → a.length < lead.length → e.whole (.behind a b) = none := by
  simp only [whole_eq_none_iff he]
  simp only [← first_ofExpr he]
  rfl

end Expr

end PublishGate.Pattern
