import Mathlib.Data.List.Perm.Subperm
import PublishGate.Pattern.Search
import PublishGate.Proofs.Pattern.Ways

/-! # Backtracking without memory

Plain backtracking follows the ways through a program one after the other, the preferred one first,
and gives a way up only where it comes back to one of its own steps. It lists whatever a match can
capture. The search, which never enters a step twice at one place, finds the first of that list. -/

namespace PublishGate.Pattern

/-- A place between two characters, with all that comes of taking the next one there. -/
structure Outlook where
  before : Option Char
  after : Option Char
  taken : Charset → Nat → List Captured

/-- What the ways that end with the step, or take a character in it, capture. -/
def Step.ending (o : Outlook) : Step → List Captured
  | .accept => [.nothing]
  | .take set next => o.taken set next
  | _ => []

def Step.followers (o : Outlook) (s : Step) : List Nat :=
  s.onward o.before o.after

theorem Step.ending_of_isSilent {s : Step} (h : s.IsSilent) (o : Outlook) : s.ending o = [] := by
  cases s with
  | accept => exact h.elim
  | take set next => exact h.elim
  | _ => rfl

namespace Program

/-- What the ways from step `i` capture that never come back to a step of `trail` or to one of their
own, the preferred one first. The count bounds the length of a way. -/
def tries (p : Program) (o : Outlook) : Nat → List Nat → Nat → List Captured
  | 0, _, _ => []
  | n + 1, trail, i =>
    if i ∈ trail then []
    else match p.steps[i]? with
      | none => []
      | some s => s.ending o ++ ((s.followers o).flatMap (tries p o n (i :: trail))).map s.change

/-- From step `i` a way that keeps clear of the steps of `trail` ends a match or takes a
character. -/
inductive Reaches (p : Program) (o : Outlook) (trail : List Nat) : Nat → Prop
  | ending {i s} : i ∉ trail → p.steps[i]? = some s → s.ending o ≠ [] → Reaches p o trail i
  | onward {i j s} : i ∉ trail → p.steps[i]? = some s → j ∈ s.followers o →
      Reaches p o trail j → Reaches p o trail i

/-- A way from step `i` that keeps clear of the steps of `trail` and does not come back to `i`. -/
def Departs (p : Program) (o : Outlook) (trail : List Nat) (i : Nat) : Prop :=
  ∃ s, p.steps[i]? = some s ∧
    (s.ending o ≠ [] ∨ ∃ j ∈ s.followers o, p.Reaches o (i :: trail) j)

variable {p : Program} {o : Outlook} {n i j : Nat} {trail : List Nat} {s : Step}

/-! ## Ways that keep clear of a trail -/

theorem Reaches.not_mem (h : p.Reaches o trail i) : i ∉ trail := by
  cases h with
  | ending hi => exact hi
  | onward hi => exact hi

theorem Reaches.of_cons (h : p.Reaches o (i :: trail) j) : p.Reaches o trail j := by
  induction h with
  | ending hj hs he => exact .ending (fun hm => hj (List.mem_cons_of_mem _ hm)) hs he
  | onward hj hs hk _ ih => exact .onward (fun hm => hj (List.mem_cons_of_mem _ hm)) hs hk ih

/-- A way either keeps clear of `i` too, or it comes to `i`, and from its last visit there goes on
without `i`. -/
theorem Reaches.split (h : p.Reaches o trail j) (i : Nat) :
    p.Reaches o (i :: trail) j ∨ p.Departs o trail i := by
  induction h with
  | @ending k s hk hs he =>
    by_cases hki : k = i
    · subst hki
      exact .inr ⟨s, hs, .inl he⟩
    · exact .inl (.ending (by simp [hki, hk]) hs he)
  | @onward k l s hk hs hl _ ih =>
    rcases ih with ih | ih
    · by_cases hki : k = i
      · subst hki
        exact .inr ⟨s, hs, .inr ⟨l, hl, ih⟩⟩
      · exact .inl (.onward (by simp [hki, hk]) hs hl ih)
    · exact .inr ih

theorem reaches_iff_departs : p.Reaches o trail i ↔ i ∉ trail ∧ p.Departs o trail i := by
  constructor
  · intro h
    refine ⟨h.not_mem, ?_⟩
    rcases h.split i with h | h
    · exact absurd (List.mem_cons_self ..) h.not_mem
    · exact h
  · rintro ⟨hi, s, hs, he | ⟨j, hj, h⟩⟩
    · exact .ending hi hs he
    · exact .onward hi hs hj h.of_cons

/-- A trail of different steps of the program which leaves the count `n` for all the others. -/
structure Room (p : Program) (n : Nat) (trail : List Nat) : Prop where
  nodup : trail.Nodup
  within : ∀ i ∈ trail, i < p.steps.size
  enough : p.steps.size < n + trail.length

theorem Room.ne_zero (h : p.Room n trail) : n ≠ 0 := by
  rintro rfl
  have hsub : trail ⊆ List.range p.steps.size := by
    intro i hi
    exact List.mem_range.mpr (h.within i hi)
  have hlen := (List.Nodup.subperm h.nodup hsub).length_le
  have henough := h.enough
  rw [List.length_range] at hlen
  omega

theorem Room.push (h : p.Room (n + 1) trail) (hi : i ∉ trail) (hs : p.steps[i]? = some s) :
    p.Room n (i :: trail) := by
  obtain ⟨hlt, _⟩ := Array.getElem?_eq_some_iff.mp hs
  constructor
  · exact List.nodup_cons.mpr ⟨hi, h.nodup⟩
  · intro j hj
    rcases List.mem_cons.mp hj with rfl | hj
    · exact hlt
    · exact h.within j hj
  · have henough := h.enough
    rw [List.length_cons]
    omega

theorem room_nil (p : Program) : p.Room (p.steps.size + 1) [] :=
  ⟨List.nodup_nil, by simp, by simp⟩

theorem tries_of_none (hs : p.steps[i]? = none) : p.tries o (n + 1) trail i = [] := by
  simp [tries, hs]

theorem tries_of_some (hi : i ∉ trail) (hs : p.steps[i]? = some s) :
    p.tries o (n + 1) trail i =
      s.ending o ++ ((s.followers o).flatMap (p.tries o n (i :: trail))).map s.change := by
  simp [tries, hi, hs]

/-- Backtracking comes to something whenever there is a way, since a way need not come back to a
step. -/
theorem tries_ne_nil_iff (h : p.Room n trail) : p.tries o n trail i ≠ [] ↔ p.Reaches o trail i := by
  induction n generalizing trail i with
  | zero => exact absurd rfl h.ne_zero
  | succ n ih =>
    rw [reaches_iff_departs]
    by_cases hi : i ∈ trail
    · simp [tries, hi]
    cases hs : p.steps[i]? with
    | none => simp [tries_of_none hs, hs, Departs]
    | some s =>
      have ih' : ∀ j, p.tries o n (i :: trail) j ≠ [] ↔ p.Reaches o (i :: trail) j :=
        fun j => ih (h.push hi hs)
      simp [tries_of_some hi hs, hi, hs, Departs, ← ih', Decidable.or_iff_not_imp_left]

/-! ## The search at one place -/

/-- The place shows the first of all that comes of taking a character. -/
structure Spot.Shows (p : Program) (spot : Spot) (o : Outlook) : Prop where
  before : spot.before = o.before
  after : spot.after = o.after
  taken : ∀ (i : Nat) set next, p.steps[i]? = some (Step.take set next) →
    spot.taken[i]?.getD none = (o.taken set next).head?

/-- The steps seen lead to nothing but back to the trail. -/
def Dead (p : Program) (o : Outlook) (trail : List Nat) (seen : Nat) : Prop :=
  ∀ j, seen.testBit j = true → ¬ p.Reaches o trail j

/-- A search that has gone through the ways of `found`: it has the first of them, and where it has
none, all that it has seen is dead. -/
structure Searched (p : Program) (o : Outlook) (trail : List Nat) (seen : Nat)
    (found : List Captured) (result : Option Captured × Nat) : Prop where
  first : result.1 = found.head?
  grows : ∀ j, seen.testBit j = true → result.2.testBit j = true
  dead : result.1 = none → p.Dead o trail result.2

def exploreAll (p : Program) (spot : Spot) (n : Nat) : Nat → List Nat → Option Captured × Nat
  | seen, [] => (none, seen)
  | seen, j :: js =>
    match explore p spot n seen j with
    | (some r, seen) => (some r, seen)
    | (none, seen) => exploreAll p spot n seen js

variable {spot : Spot} {seen : Nat}

theorem testBit_mark (seen i j : Nat) :
    (seen ||| 1 <<< i).testBit j = (seen.testBit j || decide (i = j)) := by
  rw [Nat.testBit_or, Nat.one_shiftLeft, Nat.testBit_two_pow]

theorem explore_of_seen (h : seen.testBit i = true) : explore p spot n seen i = (none, seen) := by
  cases n with
  | zero => rfl
  | succ n => simp [explore, h]

theorem explore_of_none (h : seen.testBit i = false) (hs : p.steps[i]? = none) :
    explore p spot (n + 1) seen i = (none, seen ||| 1 <<< i) := by
  simp [explore, h, hs]

theorem exploreAll_singleton : exploreAll p spot n seen [j] = explore p spot n seen j := by
  simp only [exploreAll]
  split
  next he => exact he.symm
  next he => exact he.symm

theorem explore_of_accept (h : seen.testBit i = false) (hs : p.steps[i]? = some .accept) :
    explore p spot (n + 1) seen i = (some .nothing, seen ||| 1 <<< i) := by
  simp [explore, h, hs]

theorem explore_of_take {set : Charset} (h : seen.testBit i = false)
    (hs : p.steps[i]? = some (.take set j)) :
    explore p spot (n + 1) seen i = (spot.taken[i]?.getD none, seen ||| 1 <<< i) := by
  simp [explore, h, hs]

theorem explore_of_isSilent (h : seen.testBit i = false) (hs : p.steps[i]? = some s)
    (hsilent : s.IsSilent) :
    explore p spot (n + 1) seen i =
      (exploreAll p spot n (seen ||| 1 <<< i) (s.onward spot.before spot.after)).map
        (Option.map s.change) id := by
  have hid : ∀ q : Option Captured × Nat, q.map (Option.map id) id = q := by simp
  cases s with
  | accept => exact hsilent.elim
  | take set next => exact hsilent.elim
  | jump next =>
    rw [Step.onward, exploreAll_singleton, Step.change, hid]
    simp [explore, h, hs]
  | check l next =>
    by_cases hl : l.holds spot.before spot.after = true
    · rw [Step.onward, if_pos hl, exploreAll_singleton, Step.change, hid]
      simp [explore, h, hs, hl]
    · rw [Step.onward, if_neg hl, exploreAll, Step.change, hid]
      simp [explore, h, hs, hl]
  | fork first second =>
    rw [Step.onward, exploreAll, Step.change, hid]
    simp only [explore, h, hs, Bool.false_eq_true, if_false]
    rcases explore p spot n (seen ||| 1 <<< i) first with ⟨_ | r, later⟩
    · exact exploreAll_singleton.symm
    · rfl
  | groupStart next =>
    rw [Step.onward, exploreAll_singleton, Step.change]
    simp [explore, h, hs, Prod.map]
  | groupEnd next =>
    rw [Step.onward, exploreAll_singleton, Step.change]
    simp [explore, h, hs, Prod.map]

/-- What one search of a step promises carries over to the search of several, one after the
other. -/
theorem searched_exploreAll
    (ih : ∀ seen j, (∀ i ∈ trail, seen.testBit i = true) → p.Dead o trail seen →
      p.Searched o trail seen (p.tries o n trail j) (explore p spot n seen j))
    (js : List Nat) (htrail : ∀ i ∈ trail, seen.testBit i = true) (hdead : p.Dead o trail seen) :
    p.Searched o trail seen (js.flatMap (p.tries o n trail)) (exploreAll p spot n seen js) := by
  induction js generalizing seen with
  | nil => exact ⟨rfl, fun _ h => h, fun _ => hdead⟩
  | cons j js ihs =>
    have hj := ih seen j htrail hdead
    have hfirst := hj.first
    simp only [exploreAll, List.flatMap_cons]
    split
    next r later he =>
      simp only [he] at hj hfirst
      refine ⟨?_, hj.grows, fun h => by simp at h⟩
      rw [List.head?_append, ← hfirst, Option.some_or]
    next later he =>
      simp only [he] at hj hfirst
      have hlater := ihs (fun i hi => hj.grows i (htrail i hi)) (hj.dead rfl)
      refine ⟨?_, fun k hk => hlater.grows k (hj.grows k hk), hlater.dead⟩
      rw [List.head?_append, ← hfirst, Option.none_or]
      exact hlater.first

/-- What is searched without coming back to `i` is searched for good, once all ways from `i` are
gone through. -/
theorem Searched.close {result : Option Captured × Nat} (hroom : p.Room (n + 1) trail)
    (hi : i ∉ trail)
    (h : p.Searched o (i :: trail) (seen ||| 1 <<< i) (p.tries o (n + 1) trail i) result) :
    p.Searched o trail seen (p.tries o (n + 1) trail i) result := by
  constructor
  · exact h.first
  · intro j hj
    exact h.grows j (by rw [testBit_mark, hj, Bool.true_or])
  · intro hnone j hj hr
    have hnil : p.tries o (n + 1) trail i = [] := List.head?_eq_none_iff.mp (h.first ▸ hnone)
    rcases hr.split i with hr | hd
    · exact h.dead hnone j hj hr
    · exact (tries_ne_nil_iff hroom).mpr (reaches_iff_departs.mpr ⟨hi, hd⟩) hnil

theorem searched_explore (hspot : Spot.Shows p spot o) (hroom : p.Room n trail)
    (htrail : ∀ j ∈ trail, seen.testBit j = true) (hdead : p.Dead o trail seen) :
    p.Searched o trail seen (p.tries o n trail i) (explore p spot n seen i) := by
  induction n generalizing trail seen i with
  | zero => exact absurd rfl hroom.ne_zero
  | succ n ih =>
    by_cases hseen : seen.testBit i = true
    · have hnil : p.tries o (n + 1) trail i = [] := by
        by_cases hnil : p.tries o (n + 1) trail i = []
        · exact hnil
        · exact absurd ((tries_ne_nil_iff hroom).mp hnil) (hdead i hseen)
      rw [explore_of_seen hseen, hnil]
      exact ⟨rfl, fun _ h => h, fun _ => hdead⟩
    have hi : i ∉ trail := fun hm => hseen (htrail i hm)
    have hseen : seen.testBit i = false := Bool.eq_false_iff.mpr hseen
    have hmark : ∀ j ∈ i :: trail, (seen ||| 1 <<< i).testBit j = true := by
      intro j hj
      rw [testBit_mark]
      rcases List.mem_cons.mp hj with rfl | hj
      · simp
      · rw [htrail j hj, Bool.true_or]
    have hdead' : p.Dead o (i :: trail) (seen ||| 1 <<< i) := by
      intro j hj hr
      rw [testBit_mark, Bool.or_eq_true, decide_eq_true_eq] at hj
      rcases hj with hj | rfl
      · exact hdead j hj hr.of_cons
      · exact hr.not_mem (List.mem_cons_self ..)
    apply Searched.close hroom hi
    cases hs : p.steps[i]? with
    | none =>
      rw [explore_of_none hseen hs, tries_of_none hs]
      exact ⟨rfl, fun _ h => h, fun _ => hdead'⟩
    | some s =>
      rw [tries_of_some hi hs]
      by_cases hsilent : s.IsSilent
      · have hall := searched_exploreAll (fun seen j => ih (hroom.push hi hs)) (s.followers o)
          hmark hdead'
        rw [explore_of_isSilent hseen hs hsilent, hspot.before, hspot.after]
        rw [Step.ending_of_isSilent hsilent, List.nil_append]
        refine ⟨?_, hall.grows, fun hnone => hall.dead (Option.map_eq_none_iff.mp hnone)⟩
        rw [List.head?_map, ← hall.first]
        rfl
      · cases s with
        | accept =>
          rw [explore_of_accept hseen hs]
          exact ⟨rfl, fun _ h => h, fun h => by simp at h⟩
        | take set next =>
          rw [explore_of_take hseen hs]
          refine ⟨?_, fun _ h => h, fun _ => hdead'⟩
          simp [Step.ending, Step.followers, Step.onward, hspot.taken i set next hs]
        | _ => exact absurd trivial hsilent

/-- At one place the search and plain backtracking prefer the same. -/
theorem outcome_eq_head?_tries (hspot : Spot.Shows p spot o) (i : Nat) :
    p.outcome spot i = (p.tries o (p.steps.size + 1) [] i).head? :=
  (searched_explore hspot (room_nil p) (by simp) (by simp [Dead])).first

end Program

end PublishGate.Pattern
