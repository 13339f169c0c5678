import PublishGate.Pattern.Search

/-! # Where a captured text lies

A search goes from the end of a line to its start. What it has captured at some place lies in the
rest of the line, and at its front as long as the start of the group is still to come. -/

namespace PublishGate.Pattern

/-- The captured text lies in `rest`, and at its front while the group is open. -/
def Captured.Within (rest : List Char) : Captured → Prop
  | .nothing => True
  | .partly t => t <+: rest
  | .text t => t <:+: rest

namespace Captured

variable {rest : List Char} {r : Captured}

theorem Within.taking (h : r.Within rest) (c : Char) : (r.taking c).Within (c :: rest) := by
  cases r with
  | nothing => trivial
  | partly t => exact (List.prefix_cons_inj c).mpr h
  | text t => exact List.infix_cons h

theorem Within.closing (h : r.Within rest) : r.closing.Within rest := by
  cases r with
  | nothing => exact List.nil_prefix
  | partly t => exact h
  | text t => exact h

theorem Within.opening (h : r.Within rest) : r.opening.Within rest := by
  cases r with
  | nothing => trivial
  | partly t => exact List.IsPrefix.isInfix h
  | text t => exact h

end Captured

namespace Program

def Spot.Within (rest : List Char) (spot : Spot) : Prop :=
  ∀ (i : Nat) (r : Captured), spot.taken[i]?.getD none = some r → r.Within rest

variable {p : Program} {spot : Spot} {rest : List Char}

theorem explore_within (hs : spot.Within rest) (n seen i : Nat) {r : Captured}
    (h : (explore p spot n seen i).1 = some r) : r.Within rest := by
  induction n generalizing seen i r with
  | zero => simp [explore] at h
  | succ n ih =>
    rw [explore] at h
    split at h
    · simp at h
    · dsimp only at h
      split at h
      · simp at h
      · simp only [Option.some.injEq] at h
        subst h
        trivial
      · exact hs i r h
      · exact ih _ _ h
      · split at h
        · exact ih _ _ h
        · simp at h
      · split at h
        next he =>
          simp only [Option.some.injEq] at h
          exact ih _ _ (by rw [he, h])
        next => exact ih _ _ h
      · obtain ⟨q, hq, rfl⟩ := Option.map_eq_some_iff.mp h
        exact (ih _ _ hq).opening
      · obtain ⟨q, hq, rfl⟩ := Option.map_eq_some_iff.mp h
        exact (ih _ _ hq).closing

theorem outcome_within (hs : spot.Within rest) {i : Nat} {r : Captured}
    (h : p.outcome spot i = some r) : r.Within rest :=
  explore_within hs _ _ _ h

theorem column_within (hs : spot.Within rest) (before after : Option Char) (c : Char) :
    Spot.Within (c :: rest) ⟨before, after, p.column c spot⟩ := by
  intro i r h
  simp only [column, Array.getElem?_map] at h
  cases hi : p.steps[i]? with
  | none => simp [hi] at h
  | some step =>
    simp only [hi, Option.map_some, Option.getD_some] at h
    split at h
    · split at h
      · obtain ⟨q, hq, rfl⟩ := Option.map_eq_some_iff.mp h
        exact (outcome_within hs hq).taking c
      · simp at h
    · simp at h

theorem emptyColumn_within (before : Option Char) (rest : List Char) :
    Spot.Within rest ⟨before, none, p.emptyColumn⟩ := by
  intro i r h
  simp only [emptyColumn, Array.getElem?_map] at h
  cases hi : p.steps[i]? <;> simp [hi] at h

theorem searchFrom_within (p : Program) (before : Option Char) (line : List Char) :
    (p.searchFrom before line).2.Within line := by
  induction line generalizing before with
  | nil => exact emptyColumn_within before []
  | cons c line ih => exact column_within (ih (some c)) before (some c) c

/-- The text of a match is part of the line. -/
theorem infix_of_searchFrom {before : Option Char} {line t : List Char}
    (h : (p.searchFrom before line).1 = some (.text t)) : t <:+: line := by
  induction line generalizing before with
  | nil => exact outcome_within (searchFrom_within p before []) h
  | cons c line ih =>
    have hw := searchFrom_within p before (c :: line)
    simp only [searchFrom] at h hw
    split at h
    next found ho =>
      rw [h] at ho
      exact outcome_within hw ho
    next => exact List.infix_cons (ih h)

end Program

end PublishGate.Pattern
