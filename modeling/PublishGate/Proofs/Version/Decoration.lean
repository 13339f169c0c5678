import PublishGate.Proofs.Version.Suffix

/-! # Versions and what they are decorated with

Blanks around a version and one `v` in front of it count for nothing, save between two versions with
the same numbers that both have suffixes. These are compared as they are written. -/

namespace PublishGate

namespace Release

open Text (isBlank)

variable {s : List Char} {n : ℕ × ℕ × ℕ} {a b : String} {r v : Release}

def bareText (a : String) : String :=
  String.ofList (bare a.toList)

/-- A version begins with its first number. -/
theorem exists_first_of_counts (h : Counts s n) :
    ∃ c rest, s = c :: rest ∧ (c.isDigit = true ∨ c = '+') := by
  obtain ⟨x, y, z, hpieces, hx, -, -⟩ := h
  obtain rfl := Text.eq_of_splitOn_eq_three hpieces
  obtain ⟨ds, hds, ⟨hne, hdigits⟩, -, -⟩ := Text.word?_eq_some_iff.mp hx
  rcases hds with rfl | rfl
  · obtain ⟨d, ds, rfl⟩ := List.exists_cons_of_ne_nil hne
    exact ⟨d, _, rfl, .inl (hdigits d (by simp))⟩
  · exact ⟨'+', _, rfl, .inr rfl⟩

theorem exists_first_of_ofChars? (h : ofChars? s = some r) :
    ∃ c rest, bare s = c :: rest ∧ isBlank c = false ∧ c ≠ 'v' := by
  obtain ⟨c, rest, hcore, hc⟩ := exists_first_of_counts (ofChars?_eq_some_iff.mp h).1
  have hsplit := List.takeWhile_append_dropWhile (p := (!startsSuffix ·)) (l := bare s)
  rw [hcore, List.cons_append] at hsplit
  refine ⟨c, _, hsplit.symm, ?_, ?_⟩
  · rcases hc with hd | rfl
    · exact Text.not_isBlank_of_isDigit hd
    · decide
  · rintro rfl
    rcases hc with hd | hp
    · simp [Char.isDigit] at hd
    · simp at hp

theorem getLast?_afterV {c : Char} (h : c ∈ (afterV s).getLast?) : c ∈ s.getLast? := by
  unfold afterV at h
  split at h
  next rest =>
    cases rest with
    | nil => simp at h
    | cons d rest => simpa using h
  next => exact h

/-- Nothing more is taken off a version that has lost its decoration. -/
theorem bare_bare (h : ofChars? s = some r) : bare (bare s) = bare s := by
  obtain ⟨c, rest, hfirst, hblank, hv⟩ := exists_first_of_ofChars? h
  have htrimmed : Text.Trimmed (bare s) := by
    constructor
    · intro d hd
      rw [hfirst] at hd
      obtain rfl := Option.some.inj hd
      exact hblank
    · intro d hd
      exact (Text.trimmed_trimChars s).last d (getLast?_afterV hd)
  have hnone : ∀ d ∈ ([] : List Char), isBlank d = true := by simp
  have htrim : Text.trimChars (bare s) = bare s := by
    simpa using htrimmed.trimChars_eq hnone hnone
  rw [bare_eq (bare s), htrim, hfirst, afterV_of_ne hv]

theorem parse?_bareText (h : parse? a = some r) : parse? (bareText a) = some r := by
  rw [parse?, bareText, String.toList_ofList, ofChars?_eq_some_iff, bare_bare h]
  exact ofChars?_eq_some_iff.mp h

/-- Only what is left without its decoration decides how a version reads. -/
theorem parse?_congr (h : bareText a = bareText b) : parse? a = parse? b := by
  have hbare : bare a.toList = bare b.toList := String.ofList_injective h
  unfold parse? ofChars?
  rw [hbare]

/-! ## Where the decoration does not count -/

theorem newer_iff (ha : parse? a = some r) (hb : parse? b = some v) :
    newer a b = true ↔ v.numbers < r.numbers ∨ v.numbers = r.numbers ∧
      (r.isPlain = true ∧ v.isPlain = false ∨
        r.isPlain = false ∧ v.isPlain = false ∧ b < a) := by
  rw [newer_iff_key_lt ha hb, key, key, Prod.Lex.toLex_lt_toLex]
  cases r.isPlain <;> cases v.isPlain <;> simp

/-- Both versions have suffixes, and behind the same numbers. -/
structure Siblings (r v : Release) : Prop where
  numbers : v.numbers = r.numbers
  left : r.isPlain = false
  right : v.isPlain = false

theorem newer_of_siblings (ha : parse? a = some r) (hb : parse? b = some v) (h : Siblings r v) :
    newer a b = true ↔ b < a := by
  rw [newer_iff ha hb, h.numbers, h.left, h.right]
  simp

theorem newer_congr_of_not_siblings {a' b' : String} (ha : parse? a = some r)
    (hb : parse? b = some v) (ha' : parse? a' = some r) (hb' : parse? b' = some v)
    (h : ¬ Siblings r v) : newer a b = newer a' b' := by
  rw [Bool.eq_iff_iff, newer_iff ha hb, newer_iff ha' hb']
  refine or_congr Iff.rfl (and_congr_right fun hn => or_congr Iff.rfl ?_)
  -- what is left is the case in which the texts decide
  constructor
  · rintro ⟨hr, hv, -⟩
    exact absurd ⟨hn, hr, hv⟩ h
  · rintro ⟨hr, hv, -⟩
    exact absurd ⟨hn, hr, hv⟩ h

end Release

namespace CompareMode

open Release (parse? bareText Siblings)

variable {a b : String} {r v : Release}

theorem isNewer_of_siblings (ha : parse? a = some r) (hb : parse? b = some v)
    (h : Siblings r v) : isNewer .semantic a b = decide (b < a) := by
  rw [Bool.eq_iff_iff, decide_eq_true_iff]
  exact Release.newer_of_siblings ha hb h

/-- A plain release is not newer than itself in another spelling. -/
theorem isNewer_of_bareText_eq (ha : parse? a = some r) (hb : parse? b = some r)
    (hr : r.isPlain = true) : isNewer .semantic a b = false := by
  rw [Bool.eq_false_iff]
  intro hnewer
  rcases (Release.newer_iff ha hb).mp hnewer with hlt | ⟨-, ⟨-, hv⟩ | ⟨hv, -⟩⟩
  · exact lt_irrefl _ hlt
  · simp [hr] at hv
  · simp [hr] at hv

/-- The comparison of two releases is that of their bare texts, unless both have suffixes behind the
same numbers. Then they compare as they are written, and whether the decoration counts is a matter
of these texts; in front of both the same decoration does not. Plain releases never depend on it. -/
theorem isNewer_bareText_iff (ha : parse? a = some r) (hb : parse? b = some v) :
    (isNewer .semantic a b = isNewer .semantic (bareText a) (bareText b) ↔
      (Siblings r v → (b < a ↔ bareText b < bareText a))) ∧
    (Siblings r v → (isNewer .semantic a b = true ↔ b < a)) ∧
    (∀ lead, a = lead ++ bareText a → b = lead ++ bareText b →
      isNewer .semantic a b = isNewer .semantic (bareText a) (bareText b)) ∧
    (r.isPlain = true → ∀ a', bareText a' = bareText a →
      isNewer .semantic a a' = false ∧ isNewer .semantic a' a = false) := by
  have ha' := Release.parse?_bareText ha
  have hb' := Release.parse?_bareText hb
  have hiff : isNewer .semantic a b = isNewer .semantic (bareText a) (bareText b) ↔
      (Siblings r v → (b < a ↔ bareText b < bareText a)) := by
    by_cases h : Siblings r v
    · rw [isNewer_of_siblings ha hb h, isNewer_of_siblings ha' hb' h, decide_eq_decide]
      simp [h]
    · have heq := Release.newer_congr_of_not_siblings ha hb ha' hb' h
      simp [h, isNewer, heq]
  refine ⟨hiff, ?_, ?_, ?_⟩
  · intro h
    rw [isNewer_of_siblings ha hb h, decide_eq_true_iff]
  · intro lead hla hlb
    apply hiff.mpr
    intro _
    rw [String.lt_iff_toList_lt, String.lt_iff_toList_lt]
    conv_lhs => rw [hla, hlb, String.toList_append, String.toList_append]
    exact Text.append_lt_append_iff lead.toList
  · intro hr a' hbare
    have hread : parse? a' = some r := (Release.parse?_congr hbare).trans ha
    exact ⟨isNewer_of_bareText_eq ha hread hr, isNewer_of_bareText_eq hread ha hr⟩

/-- Two candidates for a release, both written as tags. -/
theorem isNewer_bareText_of_candidates :
    let first : Release := ⟨2, 4, 0, ['-', 'r', 'c', '1']⟩
    let second : Release := ⟨2, 4, 0, ['-', 'r', 'c', '2']⟩
    parse? "v2.4.0-rc2" = some second ∧ parse? "v2.4.0-rc1" = some first ∧
      Siblings second first ∧ isNewer .semantic "v2.4.0-rc2" "v2.4.0-rc1" = true ∧
      isNewer .semantic "v2.4.0-rc2" "v2.4.0-rc1" =
        isNewer .semantic "2.4.0-rc2" "2.4.0-rc1" := by
  intro first second
  have hsecond : parse? "v2.4.0-rc2" = some second := by decide +kernel
  have hfirst : parse? "v2.4.0-rc1" = some first := by decide +kernel
  have hsiblings : Siblings second first := ⟨rfl, rfl, rfl⟩
  have hbare : bareText "v2.4.0-rc2" = "2.4.0-rc2" ∧ bareText "v2.4.0-rc1" = "2.4.0-rc1" := by
    decide +kernel
  obtain ⟨-, htexts, hlead, -⟩ := isNewer_bareText_iff hsecond hfirst
  rw [hbare.1, hbare.2] at hlead
  exact ⟨hsecond, hfirst, hsiblings, (htexts hsiblings).mpr (by decide +kernel),
    hlead "v" (by decide +kernel) (by decide +kernel)⟩

/-- A candidate is newer than itself without the `v`. -/
theorem candidate_newer_than_its_bareText :
    (parse? "v1.0.0-a").isSome = true ∧ (parse? "1.0.0-a").isSome = true ∧
      bareText "v1.0.0-a" = "1.0.0-a" ∧ bareText "1.0.0-a" = "1.0.0-a" ∧
      isNewer .semantic "v1.0.0-a" "1.0.0-a" = true ∧
      isNewer .semantic (bareText "v1.0.0-a") (bareText "1.0.0-a") = false := by
  decide +kernel

end CompareMode

end PublishGate
