import PublishGate.Proofs.Text.Blank
import PublishGate.Proofs.Version.Comparison

/-! # Versions with something put behind them

A version keeps its numbers when text that starts with `-` or `+` is put behind it, whatever the text
is. It only ceases to be a plain release. -/

namespace PublishGate.Release

open Text (isBlank)

variable {c : Char} {core s t x y : List Char} {m n : ℕ × ℕ × ℕ} {a b : String} {r v : Release}

def Counts (core : List Char) (n : ℕ × ℕ × ℕ) : Prop :=
  ∃ x y z, core.splitOn '.' = [x, y, z] ∧
    Text.word? x = some n.1 ∧ Text.word? y = some n.2.1 ∧ Text.word? z = some n.2.2

theorem Counts.unique (hm : Counts core m) (hn : Counts core n) : m = n := by
  obtain ⟨x, y, z, hp, hx, hy, hz⟩ := hm
  obtain ⟨x', y', z', hp', hx', hy', hz'⟩ := hn
  obtain ⟨rfl, rfl, rfl⟩ : x = x' ∧ y = y' ∧ z = z' := by simpa using hp.symm.trans hp'
  rw [Prod.ext_iff, Prod.ext_iff]
  exact ⟨Option.some.inj (hx.symm.trans hx'), Option.some.inj (hy.symm.trans hy'),
    Option.some.inj (hz.symm.trans hz')⟩

theorem ofChars?_eq_some_iff :
    ofChars? s = some r ↔ Counts ((bare s).takeWhile (!startsSuffix ·)) r.triple ∧
      r.suffix = (bare s).dropWhile (!startsSuffix ·) := by
  unfold ofChars?
  dsimp only
  constructor
  · intro h
    split at h
    next x y z hp =>
      split at h
      next hx hy hz =>
        obtain rfl := Option.some.inj h
        exact ⟨⟨x, y, z, hp, hx, hy, hz⟩, rfl⟩
      next => simp at h
    next => simp at h
  · rintro ⟨⟨x, y, z, hp, hx, hy, hz⟩, hsuffix⟩
    simp only [triple] at hx hy hz
    simp only [hp, hx, hy, hz, ← hsuffix]

/-! ## What a suffix does not reach -/

def afterV : List Char → List Char
  | 'v' :: rest => rest
  | s => s

theorem bare_eq (s : List Char) : bare s = afterV (Text.trimChars s) := rfl

theorem afterV_of_ne (hc : c ≠ 'v') : afterV (c :: s) = c :: s := by
  unfold afterV
  split
  next h => exact absurd (List.cons.inj h).1 hc
  next => rfl

theorem afterV_append_cons (hc : c ≠ 'v') (s t : List Char) :
    afterV (s ++ c :: t) = afterV s ++ c :: t := by
  cases s with
  | nil => exact afterV_of_ne hc
  | cons d s =>
    by_cases hd : d = 'v'
    · subst hd
      rfl
    · rw [List.cons_append, afterV_of_ne hd, afterV_of_ne hd, List.cons_append]

/-- The part of a text that its numbers are read from when a suffix follows. -/
def stem (s : List Char) : List Char :=
  afterV (s.dropWhile isBlank)

theorem not_isBlank_of_startsSuffix (hc : startsSuffix c = true) : isBlank c = false := by
  simp only [startsSuffix, Bool.or_eq_true, decide_eq_true_eq] at hc
  rcases hc with rfl | rfl <;> decide

theorem bare_append_cons (hc : startsSuffix c = true) (s t : List Char) :
    bare (s ++ c :: t) = stem s ++ c :: t.rdropWhile isBlank := by
  have hv : c ≠ 'v' := by
    rintro rfl
    simp [startsSuffix] at hc
  rw [bare_eq, Text.trimChars_append_cons (not_isBlank_of_startsSuffix hc),
    afterV_append_cons hv, stem]

theorem bare_of_not_isBlank (hs : ∀ c ∈ s, isBlank c = false) : bare s = stem s := by
  rw [bare_eq, Text.trimChars_of_not_isBlank hs, stem, Text.dropWhile_of_not_isBlank hs]

/-- The numbers of a version with a suffix are those of its stem. -/
theorem ofChars?_append_cons_eq_some_iff (hc : startsSuffix c = true) :
    ofChars? (s ++ c :: t) = some r ↔ Counts ((stem s).takeWhile (!startsSuffix ·)) r.triple ∧
      r.suffix = (stem s).dropWhile (!startsSuffix ·) ++ c :: t.rdropWhile isBlank := by
  have hstop : (!startsSuffix c) = false := by rw [hc, Bool.not_true]
  rw [ofChars?_eq_some_iff, bare_append_cons hc,
    Text.takeWhile_append_cons (p := (!startsSuffix ·)) hstop,
    Text.dropWhile_append_cons (p := (!startsSuffix ·)) hstop]

theorem not_isPlain_of_append (hc : startsSuffix c = true) (h : ofChars? (s ++ c :: t) = some r) :
    r.isPlain = false := by
  rw [isPlain, ((ofChars?_append_cons_eq_some_iff hc).mp h).2]
  simp

/-- Behind a version without blanks any suffix leaves the numbers as they are. -/
theorem exists_ofChars?_append (hc : startsSuffix c = true) (hs : ∀ c ∈ s, isBlank c = false)
    (h : ofChars? s = some r) (t : List Char) :
    ∃ v, ofChars? (s ++ c :: t) = some v ∧ v.triple = r.triple ∧ v.isPlain = false := by
  rw [ofChars?_eq_some_iff, bare_of_not_isBlank hs] at h
  have hv : ofChars? (s ++ c :: t) = some ⟨r.major, r.minor, r.patch,
      (stem s).dropWhile (!startsSuffix ·) ++ c :: t.rdropWhile isBlank⟩ :=
    (ofChars?_append_cons_eq_some_iff hc).mpr ⟨h.1, rfl⟩
  exact ⟨_, hv, rfl, not_isPlain_of_append hc hv⟩

/-! ## Which of two versions is the newer one -/

theorem newer_of_numbers_lt (ha : parse? a = some r) (hb : parse? b = some v)
    (h : v.numbers < r.numbers) : newer a b = true := by
  rw [newer_iff_key_lt ha hb, key, key, Prod.Lex.toLex_lt_toLex]
  exact .inl h

/-- A plain release is newer than any version of its numbers with a suffix. -/
theorem newer_of_isPlain (ha : parse? a = some r) (hb : parse? b = some v)
    (h : v.triple = r.triple) (hr : r.isPlain = true) (hv : v.isPlain = false) :
    newer a b = true := by
  rw [newer_iff_key_lt ha hb, key, key, Prod.Lex.toLex_lt_toLex]
  exact .inr ⟨triple_eq_iff.mp h, by simp [hr, hv]⟩

/-- Versions with suffixes behind one text compare as texts, whether the text reads as a version or
not. -/
theorem newer_append_iff (hc : startsSuffix c = true) :
    newer (String.ofList (s ++ c :: x)) (String.ofList (s ++ c :: y)) = true ↔
      s ++ c :: y < s ++ c :: x := by
  rw [← Text.ofList_lt_ofList_iff]
  cases hx : parse? (String.ofList (s ++ c :: x)) with
  | none => exact newer_iff_text_lt (.inl hx)
  | some r =>
    cases hy : parse? (String.ofList (s ++ c :: y)) with
    | none => exact newer_iff_text_lt (.inr hy)
    | some v =>
      -- the numbers come from `s` in both, and neither is plain
      have hr : ofChars? (s ++ c :: x) = some r := by rwa [parse?, String.toList_ofList] at hx
      have hv : ofChars? (s ++ c :: y) = some v := by rwa [parse?, String.toList_ofList] at hy
      have hcounts := ((ofChars?_append_cons_eq_some_iff hc).mp hr).1
      have hnumbers : v.numbers = r.numbers :=
        triple_eq_iff.mp (((ofChars?_append_cons_eq_some_iff hc).mp hv).1.unique hcounts)
      rw [newer_iff_key_lt hx hy, key, key, Prod.Lex.toLex_lt_toLex, hnumbers,
        not_isPlain_of_append hc hr, not_isPlain_of_append hc hv]
      simp

end PublishGate.Release

namespace PublishGate.CompareMode

variable {c : Char} {s x y : List Char}

theorem isNewer_append_iff (mode : CompareMode) (hc : Release.startsSuffix c = true) :
    mode.isNewer (String.ofList (s ++ c :: x)) (String.ofList (s ++ c :: y)) = true ↔
      s ++ c :: y < s ++ c :: x := by
  cases mode with
  | lexicographic => rw [isNewer, decide_eq_true_iff, Text.ofList_lt_ofList_iff]
  | semantic => rw [isNewer, Release.newer_append_iff hc]

end PublishGate.CompareMode
