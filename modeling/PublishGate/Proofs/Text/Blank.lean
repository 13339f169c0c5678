import Mathlib.Data.List.DropRight
import PublishGate.Proofs.Text.Decimal
import PublishGate.Text.Blank

/-! # Text and the blanks around it -/

namespace PublishGate.Text

variable {c : Char} {s t before after : List Char}

theorem not_isBlank_of_isDigit (h : c.isDigit = true) : isBlank c = false := by
  have hdigit := toNat_of_isDigit h
  simp [isBlank, blankRanges]
  omega

theorem dropWhile_append_cons {p : Char → Bool} (hc : p c = false) (s t : List Char) :
    (s ++ c :: t).dropWhile p = s.dropWhile p ++ c :: t := by
  induction s with
  | nil => exact List.dropWhile_cons_of_neg (by simp [hc])
  | cons d s ih =>
    by_cases hd : p d = true
    · rw [List.cons_append, List.dropWhile_cons_of_pos hd, List.dropWhile_cons_of_pos hd, ih]
    · rw [List.cons_append, List.dropWhile_cons_of_neg hd, List.dropWhile_cons_of_neg hd,
        List.cons_append]

theorem takeWhile_append_cons {p : Char → Bool} (hc : p c = false) (s t : List Char) :
    (s ++ c :: t).takeWhile p = s.takeWhile p := by
  induction s with
  | nil => exact List.takeWhile_cons_of_neg (by simp [hc])
  | cons d s ih =>
    by_cases hd : p d = true
    · rw [List.cons_append, List.takeWhile_cons_of_pos hd, List.takeWhile_cons_of_pos hd, ih]
    · rw [List.cons_append, List.takeWhile_cons_of_neg hd, List.takeWhile_cons_of_neg hd]

theorem rdropWhile_append_cons {p : Char → Bool} (hc : p c = false) (s t : List Char) :
    (s ++ c :: t).rdropWhile p = s ++ c :: t.rdropWhile p := by
  have hreverse : (s ++ c :: t).reverse = t.reverse ++ c :: s.reverse := by simp
  rw [List.rdropWhile, hreverse, dropWhile_append_cons hc]
  simp [List.rdropWhile]

theorem trimChars_eq_rdropWhile (s : List Char) :
    trimChars s = (s.dropWhile isBlank).rdropWhile isBlank := rfl

/-- The two ends of a text are trimmed on their own when a character between them stays. -/
theorem trimChars_append_cons (hc : isBlank c = false) (s t : List Char) :
    trimChars (s ++ c :: t) = s.dropWhile isBlank ++ c :: t.rdropWhile isBlank := by
  rw [trimChars_eq_rdropWhile, dropWhile_append_cons hc, rdropWhile_append_cons hc]

structure Trimmed (s : List Char) : Prop where
  first : ∀ c ∈ s.head?, isBlank c = false
  last : ∀ c ∈ s.getLast?, isBlank c = false

theorem trimmed_trimChars (s : List Char) : Trimmed (trimChars s) := by
  rw [trimChars_eq_rdropWhile]
  constructor
  · intro c hc
    -- what is dropped at the end leaves the first character, unless it leaves none
    have hpre : (s.dropWhile isBlank).rdropWhile isBlank <+: s.dropWhile isBlank :=
      List.rdropWhile_prefix isBlank _
    obtain ⟨front, hfront⟩ := List.head?_eq_some_iff.mp hc
    obtain ⟨later, hlater⟩ := hpre
    rw [hfront] at hlater
    have hhead := List.head?_dropWhile_not isBlank s
    rw [← hlater] at hhead
    simpa using hhead
  · intro c hc
    have hne : (s.dropWhile isBlank).rdropWhile isBlank ≠ [] := by
      intro hnil
      simp [hnil] at hc
    have hlast := List.rdropWhile_last_not isBlank (s.dropWhile isBlank) hne
    rw [List.getLast?_eq_some_getLast hne] at hc
    obtain rfl := Option.some.inj hc
    exact Bool.eq_false_iff.mpr hlast

theorem trimmed_of_not_isBlank (h : ∀ c ∈ s, isBlank c = false) : Trimmed s :=
  ⟨fun c hc => h c (List.mem_of_mem_head? hc), fun c hc => h c (List.mem_of_mem_getLast? hc)⟩

/-- Trimming leaves what stands between the blanks at both ends. -/
theorem Trimmed.trimChars_eq (ht : Trimmed t) (hb : ∀ c ∈ before, isBlank c = true)
    (ha : ∀ c ∈ after, isBlank c = true) : trimChars (before ++ (t ++ after)) = t := by
  rw [trimChars_eq_rdropWhile, List.dropWhile_append_of_pos hb]
  cases t with
  | nil =>
    rw [List.nil_append, List.dropWhile_eq_nil_iff.mpr ha, List.rdropWhile_nil]
  | cons c t =>
    have hc : ¬ isBlank c = true := by simp [ht.first c rfl]
    have hlast : (c :: t).rdropWhile isBlank = c :: t := by
      rw [List.rdropWhile_eq_self_iff]
      intro hne
      simp [ht.last _ (List.getLast?_eq_some_getLast hne)]
    have hafter : ∀ d ∈ after.reverse, isBlank d = true := fun d hd => ha d (List.mem_reverse.mp hd)
    rw [List.cons_append, List.dropWhile_cons_of_neg hc, ← List.cons_append, List.rdropWhile,
      List.reverse_append, List.dropWhile_append_of_pos hafter]
    exact hlast

theorem dropWhile_of_not_isBlank (h : ∀ c ∈ s, isBlank c = false) : s.dropWhile isBlank = s := by
  cases s with
  | nil => rfl
  | cons c s => exact List.dropWhile_cons_of_neg (by simp [h c])

theorem trimChars_of_not_isBlank (h : ∀ c ∈ s, isBlank c = false) : trimChars s = s := by
  have hnone : ∀ c ∈ ([] : List Char), isBlank c = true := by simp
  simpa using (trimmed_of_not_isBlank h).trimChars_eq hnone hnone

end PublishGate.Text
