import Mathlib.Data.List.TakeWhile
import PublishGate.Proofs.Text.Blank
import PublishGate.Proofs.Text.ByteOrder
import PublishGate.Proofs.Version.Order
import PublishGate.Proofs.Version.Triple

/-! # The laws of the comparison

Both comparisons are strict: no version is newer than itself, and of two versions at most one is
newer. As texts, all versions stand in one line. As releases they stand in the order of their keys,
which on plain releases is the order of their numbers. -/

namespace PublishGate

namespace DigitTriple

variable {s : List Char}

theorem not_isBlank (h : DigitTriple s) : ∀ c ∈ s, Text.isBlank c = false := by
  intro c hc
  rcases h.digit_or_point c hc with hd | rfl
  · exact Text.not_isBlank_of_isDigit hd
  · decide

theorem not_startsSuffix (h : DigitTriple s) : ∀ c ∈ s, Release.startsSuffix c = false := by
  intro c hc
  rcases h.digit_or_point c hc with hd | rfl
  · rw [Release.startsSuffix, Bool.or_eq_false_iff, decide_eq_false_iff_not,
      decide_eq_false_iff_not]
    constructor <;> rintro rfl <;> simp [Char.isDigit] at hd
  · decide

/-- Three numbers stand as they are: nothing is cut off in front of them or behind. -/
theorem bare_eq (h : DigitTriple s) : Release.bare s = s := by
  rw [Release.bare, Text.trimChars_of_not_isBlank h.not_isBlank]
  split
  next rest =>
    obtain ⟨d, t, he, hd⟩ := h.exists_digit_cons
    obtain ⟨rfl, -⟩ := List.cons.inj he
    simp [Char.isDigit] at hd
  next => rfl

end DigitTriple

namespace Release

open Text (DigitRun digitsValue word? wordBound)

theorem word?_digitRun {ds : List Char} (h : DigitRun ds) (hb : digitsValue ds < wordBound) :
    word? ds = some (digitsValue ds) :=
  Text.word?_eq_some_iff.mpr ⟨ds, .inl rfl, h, rfl, hb⟩

theorem ofChars?_digitRuns {a b c : List Char} (ha : DigitRun a) (hb : DigitRun b)
    (hc : DigitRun c) (hba : digitsValue a < wordBound) (hbb : digitsValue b < wordBound)
    (hbc : digitsValue c < wordBound) :
    ofChars? (a ++ '.' :: (b ++ '.' :: c)) =
      some ⟨digitsValue a, digitsValue b, digitsValue c, []⟩ := by
  have ht : DigitTriple (a ++ '.' :: (b ++ '.' :: c)) := ⟨a, b, c, rfl, ha, hb, hc⟩
  have hplain : ∀ d ∈ a ++ '.' :: (b ++ '.' :: c), (!startsSuffix d) = true :=
    fun d hd => by rw [ht.not_startsSuffix d hd, Bool.not_false]
  have hcore := List.takeWhile_eq_self_iff.mpr hplain
  have hsuffix := List.dropWhile_eq_nil_iff.mpr hplain
  simp only [ofChars?, ht.bare_eq, hcore, hsuffix, Text.splitOn_digitRuns ha hb hc,
    word?_digitRun ha hba, word?_digitRun hb hbb, word?_digitRun hc hbc]

def plainText (a b c : UInt64) : String :=
  String.ofList (Text.decimal a.toNat ++ '.' :: (Text.decimal b.toNat ++ '.' ::
    Text.decimal c.toNat))

theorem parse?_plainText (a b c : UInt64) :
    parse? (plainText a b c) = some ⟨a.toNat, b.toNat, c.toNat, []⟩ := by
  have hword : ∀ w : UInt64, digitsValue (Text.decimal w.toNat) < wordBound := by
    intro w
    rw [Text.digitsValue_decimal]
    exact w.toNat_lt
  have h := ofChars?_digitRuns (Text.digitRun_decimal _) (Text.digitRun_decimal _)
    (Text.digitRun_decimal _) (hword a) (hword b) (hword c)
  simpa only [parse?, plainText, String.toList_ofList, Text.digitsValue_decimal] using h

variable {a b c : String} {r s : Release}

theorem newer_plainText (a b c a' b' c' : UInt64) :
    newer (plainText a b c) (plainText a' b' c') = true ↔
      toLex (a', toLex (b', c')) < toLex (a, toLex (b, c)) := by
  rw [newer_iff_key_lt (parse?_plainText a b c) (parse?_plainText a' b' c')]
  simp only [key, numbers, isPlain, List.isEmpty_nil, if_true, Prod.Lex.toLex_lt_toLex,
    UInt64.lt_iff_toNat_lt, ← UInt64.toNat_inj, lt_irrefl, and_false, or_false]

/-- The two ways to compare, one for both directions: by the keys or by the texts. -/
theorem newer_by_key_or_text (a b : String) :
    (∃ r s, parse? a = some r ∧ parse? b = some s) ∨
      ((newer a b = true ↔ b < a) ∧ (newer b a = true ↔ a < b)) := by
  cases ha : parse? a with
  | none => exact .inr ⟨newer_iff_text_lt (.inl ha), newer_iff_text_lt (.inr ha)⟩
  | some r =>
    cases hb : parse? b with
    | none => exact .inr ⟨newer_iff_text_lt (.inr hb), newer_iff_text_lt (.inl hb)⟩
    | some s => exact .inl ⟨r, s, rfl, rfl⟩

theorem newer_asymm (h : newer a b = true) : ¬ newer b a = true := by
  rcases newer_by_key_or_text a b with ⟨r, s, ha, hb⟩ | ⟨hab, hba⟩
  · rw [newer_iff_key_lt hb ha]
    exact lt_asymm ((newer_iff_key_lt ha hb).mp h)
  · rw [hba]
    exact lt_asymm (hab.mp h)

/-- Versions that all read as releases keep to the order of the keys, versions of which none does to
the order of the texts. -/
theorem newer_trans
    (h : (∀ v ∈ [a, b, c], (parse? v).isSome = true) ∨ ∀ v ∈ [a, b, c], parse? v = none)
    (hab : newer a b = true) (hbc : newer b c = true) : newer a c = true := by
  rcases h with h | h
  · obtain ⟨r, ha⟩ := Option.isSome_iff_exists.mp (h a (by simp))
    obtain ⟨s, hb⟩ := Option.isSome_iff_exists.mp (h b (by simp))
    obtain ⟨t, hc⟩ := Option.isSome_iff_exists.mp (h c (by simp))
    rw [newer_iff_key_lt ha hb] at hab
    rw [newer_iff_key_lt hb hc] at hbc
    rw [newer_iff_key_lt ha hc]
    exact hbc.trans hab
  · have ha := h a (by simp)
    have hb := h b (by simp)
    rw [newer_iff_text_lt (.inl ha)] at hab
    rw [newer_iff_text_lt (.inl hb)] at hbc
    rw [newer_iff_text_lt (.inl ha)]
    exact hbc.trans hab

theorem triple_eq_iff : r.triple = s.triple ↔ r.numbers = s.numbers := by
  simp [triple, numbers]

/-- One key belongs to one text, or to all plain releases with the same numbers. -/
theorem key_eq_key_iff (ha : parse? a = some r) (hb : parse? b = some s) :
    r.key a = s.key b ↔
      a = b ∨ r.isPlain = true ∧ s.isPlain = true ∧ r.triple = s.triple := by
  have hself : a = b → r = s := by
    rintro rfl
    exact Option.some.inj (ha.symm.trans hb)
  rw [key, key, toLex_inj, Prod.mk.injEq, triple_eq_iff]
  constructor
  · rintro ⟨hn, hs⟩
    cases hr : r.isPlain <;> cases hp : s.isPlain <;> simp [hr, hp] at hs
    · exact .inl hs
    · exact .inr ⟨rfl, rfl, hn⟩
  · rintro (rfl | ⟨hr, hp, hn⟩)
    · obtain rfl := hself rfl
      exact ⟨rfl, rfl⟩
    · exact ⟨hn, by rw [if_pos hr, if_pos hp]⟩

theorem incomparable_iff (ha : parse? a = some r) (hb : parse? b = some s) :
    newer a b = false ∧ newer b a = false ↔
      a = b ∨ r.isPlain = true ∧ s.isPlain = true ∧ r.triple = s.triple := by
  rw [← key_eq_key_iff ha hb, Bool.eq_false_iff, Bool.eq_false_iff, Ne, Ne,
    newer_iff_key_lt ha hb, newer_iff_key_lt hb ha, not_lt, not_lt]
  exact ⟨fun h => le_antisymm h.1 h.2, fun h => ⟨h.le, h.ge⟩⟩

end Release

namespace CompareMode

open Release (parse? plainText)

variable {mode : CompareMode} {a b c : String}

theorem isNewer_asymm (h : mode.isNewer a b = true) : mode.isNewer b a = false := by
  rw [Bool.eq_false_iff, Ne]
  cases mode with
  | lexicographic =>
    rw [isNewer, decide_eq_true_iff]
    exact lt_asymm (of_decide_eq_true h)
  | semantic => exact Release.newer_asymm h

theorem isNewer_irrefl (mode : CompareMode) (a : String) : mode.isNewer a a = false := by
  cases h : mode.isNewer a a with
  | false => rfl
  | true => rw [← h, isNewer_asymm h]

/-- Both modes are strict. As texts, versions are totally ordered by their bytes. As releases, they
are ordered by their keys; so the order is transitive among releases and among all other versions,
and only plain releases with the same numbers share a place. -/
theorem isNewer_strict_orders :
    (∀ mode a, isNewer mode a a = false) ∧
    (∀ mode a b, isNewer mode a b = true → isNewer mode b a = false) ∧
    (∀ a b, isNewer .lexicographic a b = true ↔ Text.encode b < Text.encode a) ∧
    (∀ a b c, isNewer .lexicographic a b = true → isNewer .lexicographic b c = true →
      isNewer .lexicographic a c = true) ∧
    (∀ a b, isNewer .lexicographic a b = true ∨ a = b ∨ isNewer .lexicographic b a = true) ∧
    (∀ a b r s, parse? a = some r → parse? b = some s →
      (isNewer .semantic a b = true ↔ s.key b < r.key a)) ∧
    (∀ a b c,
      ((∀ v ∈ [a, b, c], (parse? v).isSome = true) ∨ ∀ v ∈ [a, b, c], parse? v = none) →
      isNewer .semantic a b = true → isNewer .semantic b c = true →
      isNewer .semantic a c = true) ∧
    (∀ a b r s, parse? a = some r → parse? b = some s →
      (isNewer .semantic a b = false ∧ isNewer .semantic b a = false ↔
        a = b ∨ r.isPlain = true ∧ s.isPlain = true ∧ r.triple = s.triple)) ∧
    ∀ a b c a' b' c' : UInt64,
      isNewer .semantic (plainText a b c) (plainText a' b' c') = true ↔
        toLex (a', toLex (b', c')) < toLex (a, toLex (b, c)) := by
  have htext : ∀ a b, isNewer .lexicographic a b = true ↔ b < a := fun _ _ => decide_eq_true_iff
  refine ⟨isNewer_irrefl, fun _ _ _ => isNewer_asymm, ?_, ?_, ?_,
    fun _ _ _ _ => Release.newer_iff_key_lt, fun _ _ _ => Release.newer_trans,
    fun _ _ _ _ => Release.incomparable_iff, Release.newer_plainText⟩
  · intro a b
    rw [htext, Text.encode_lt_encode_iff]
  · intro a b c hab hbc
    rw [htext] at hab hbc ⊢
    exact hbc.trans hab
  · intro a b
    rw [htext, htext]
    exact lt_trichotomy b a |>.imp_right (Or.imp_left Eq.symm)

/-- A plain release is above its candidates, which go by their texts, and shares its place with
another spelling of its numbers. -/
theorem isNewer_among_candidates :
    parse? "9.0.0" = some ⟨9, 0, 0, []⟩ ∧
    parse? "9.0.0-rc1" = some ⟨9, 0, 0, ['-', 'r', 'c', '1']⟩ ∧
    parse? " v9.00.0" = some ⟨9, 0, 0, []⟩ ∧
    isNewer .semantic "9.0.0" "9.0.0-rc1" = true ∧
    isNewer .semantic "9.0.0-rc1" "9.0.0-beta" = true ∧
    isNewer .semantic "9.0.0" "9.0.0-beta" = true ∧
    isNewer .semantic "9.0.0-rc1" "9.0.0" = false ∧
    isNewer .lexicographic "é" "z" = true ∧
    isNewer .lexicographic "é" "y" = true ∧
    (isNewer .semantic "9.0.0" " v9.00.0" = false ∧ isNewer .semantic " v9.00.0" "9.0.0" = false) := by
  obtain ⟨-, hasymm, hbytes, htrans, -, hkey, hchain, hplaces, -⟩ := isNewer_strict_orders
  have hplain : parse? "9.0.0" = some ⟨9, 0, 0, []⟩ := by decide +kernel
  have hfirst : parse? "9.0.0-rc1" = some ⟨9, 0, 0, ['-', 'r', 'c', '1']⟩ := by decide +kernel
  have hbeta : parse? "9.0.0-beta" = some ⟨9, 0, 0, ['-', 'b', 'e', 't', 'a']⟩ := by decide +kernel
  have hspelled : parse? " v9.00.0" = some ⟨9, 0, 0, []⟩ := by decide +kernel
  have htop := (hkey "9.0.0" "9.0.0-rc1" _ _ hplain hfirst).mpr (by decide +kernel)
  have hmiddle := (hkey "9.0.0-rc1" "9.0.0-beta" _ _ hfirst hbeta).mpr (by decide +kernel)
  have hletter := (hbytes "é" "z").mpr (by decide +kernel)
  refine ⟨hplain, hfirst, hspelled, htop, hmiddle, ?_, hasymm _ _ _ htop, hletter,
    htrans _ _ _ hletter (by decide +kernel),
    (hplaces _ _ _ _ hplain hspelled).mpr (.inr ⟨rfl, rfl, rfl⟩)⟩
  exact hchain _ _ _ (.inl (by simp [hplain, hfirst, hbeta])) htop hmiddle

end CompareMode

end PublishGate
