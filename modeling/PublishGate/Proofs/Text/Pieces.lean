import Mathlib.Data.List.Basic
import PublishGate.Text.Pieces

/-! # Pieces of a text and the separators between them -/

namespace PublishGate.Text

variable {c : Char} {s a b : List Char}

theorem not_sep_of_mem_splitOnP {sep : Char → Bool} {p : List Char} (hp : p ∈ s.splitOnP sep)
    (hc : c ∈ p) : sep c = false := by
  induction s generalizing p with
  | nil =>
    obtain rfl : p = [] := by simpa using hp
    simp at hc
  | cons d s ih =>
    rw [List.splitOnP_cons_eq_if_modifyHead] at hp
    split at hp
    · rcases List.mem_cons.mp hp with rfl | hp
      · simp at hc
      · exact ih hp hc
    next hd =>
      obtain ⟨q, qs, hq⟩ := List.exists_cons_of_ne_nil (List.splitOnP_ne_nil sep s)
      rw [hq, List.modifyHead_cons] at hp
      rcases List.mem_cons.mp hp with rfl | hp
      · rcases List.mem_cons.mp hc with rfl | hc
        · exact Bool.eq_false_iff.mpr hd
        · exact ih (by simp [hq]) hc
      · exact ih (by simp [hq, hp]) hc

theorem not_mem_of_cutLast? (h : cutLast? c s = none) : c ∉ s := by
  induction s with
  | nil => simp
  | cons d s ih =>
    unfold cutLast? at h
    split at h
    · simp at h
    next hs =>
      have hd : c ≠ d := by
        rintro rfl
        simp at h
      simp [hd, ih hs]

theorem cutLast?_of_not_mem (h : c ∉ s) : cutLast? c s = none := by
  induction s with
  | nil => rfl
  | cons d s ih =>
    obtain ⟨hd, hs⟩ := not_or.mp (mt List.mem_cons.mpr h)
    simp [cutLast?, ih hs, Ne.symm hd]

/-- The cut is at the last place where the separator stands. -/
theorem cutLast?_eq_some_iff : cutLast? c s = some (a, b) ↔ s = a ++ c :: b ∧ c ∉ b := by
  constructor
  · intro h
    induction s generalizing a with
    | nil => simp [cutLast?] at h
    | cons d s ih =>
      unfold cutLast? at h
      split at h
      next a' b' hs =>
        obtain ⟨rfl, rfl⟩ : d :: a' = a ∧ b' = b := by simpa using h
        obtain ⟨rfl, hb⟩ := ih hs
        exact ⟨rfl, hb⟩
      next hs =>
        obtain ⟨rfl, rfl, rfl⟩ : d = c ∧ [] = a ∧ s = b := by simpa using h
        exact ⟨rfl, not_mem_of_cutLast? hs⟩
  · rintro ⟨rfl, hb⟩
    induction a with
    | nil => simp [cutLast?, cutLast?_of_not_mem hb]
    | cons d a ih => simp [cutLast?, ih]

end PublishGate.Text
