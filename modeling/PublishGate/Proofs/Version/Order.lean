import Mathlib.Data.Prod.Lex
import Mathlib.Data.String.Basic
import Mathlib.Order.WithBot
import PublishGate.Version.Compare

/-! # The order of versions

Versions that read as releases are ordered by a key: their numbers, then a plain release above all
suffixed ones, then the text of a suffixed one. All others are ordered as texts. -/

namespace PublishGate

namespace Release

def numbers (r : Release) : ℕ ×ₗ ℕ ×ₗ ℕ :=
  toLex (r.major, toLex (r.minor, r.patch))

/-- The place of a release that is written as `text`. Nothing about the text of a plain release
counts but its numbers. -/
def key (r : Release) (text : String) : (ℕ ×ₗ ℕ ×ₗ ℕ) ×ₗ WithTop String :=
  toLex (r.numbers, if r.isPlain then ⊤ else ↑text)

theorem tripleLt_iff (a b : Release) :
    tripleLt a.triple b.triple = true ↔ a.numbers < b.numbers := by
  simp only [tripleLt, Bool.or_eq_true, Bool.and_eq_true, decide_eq_true_iff]
  simp only [triple, numbers, Prod.Lex.toLex_lt_toLex]

theorem numbers_eq_of_not_tripleLt {a b : Release} (hab : ¬ tripleLt a.triple b.triple = true)
    (hba : ¬ tripleLt b.triple a.triple = true) : a.numbers = b.numbers := by
  rw [tripleLt_iff, not_lt] at hab hba
  exact le_antisymm hba hab

/-- Between two releases the key decides. -/
theorem newer_iff_key_lt {build published : String} {b p : Release}
    (hb : parse? build = some b) (hp : parse? published = some p) :
    newer build published = true ↔ p.key published < b.key build := by
  simp only [newer, hb, hp, key, Prod.Lex.toLex_lt_toLex]
  by_cases hpb : tripleLt p.triple b.triple = true
  · simp [hpb, (tripleLt_iff p b).mp hpb]
  by_cases hbp : tripleLt b.triple p.triple = true
  · have hlt := (tripleLt_iff b p).mp hbp
    simp [hpb, hbp, not_lt_of_gt hlt, hlt.ne']
  · have he := numbers_eq_of_not_tripleLt hpb hbp
    cases hbs : b.isPlain <;> cases hps : p.isPlain <;> simp [hpb, hbp, he]

/-- With a version that reads as no release, the texts decide. -/
theorem newer_iff_text_lt {build published : String}
    (h : parse? build = none ∨ parse? published = none) :
    newer build published = true ↔ published < build := by
  rcases h with h | h
  · simp [newer, h]
  · cases hb : parse? build <;> simp [newer, h, hb]

def Below (p q : String) : Prop :=
  ∃ a b, parse? p = some a ∧ parse? q = some b ∧ a.key p < b.key q

theorem below_irrefl (p : String) : ¬ Below p p := by
  rintro ⟨a, b, ha, hb, hab⟩
  obtain rfl : a = b := Option.some.inj (ha.symm.trans hb)
  exact lt_irrefl _ hab

theorem below_trans {p q r : String} (hpq : Below p q) (hqr : Below q r) : Below p r := by
  obtain ⟨a, b, ha, hb, hab⟩ := hpq
  obtain ⟨b', c, hb', hc, hbc⟩ := hqr
  obtain rfl : b = b' := Option.some.inj (hb.symm.trans hb')
  exact ⟨a, c, ha, hc, hab.trans hbc⟩

end Release

namespace CompareMode

/-- A newer version that is not above as a text is a release, and so is the older one: only numbers
and suffixes go against the texts. -/
theorem isNewer_against_text {mode : CompareMode} {build published : String}
    (h : mode.isNewer build published = true) (ht : ¬ published < build) :
    mode = .semantic ∧ Release.Below published build := by
  cases mode with
  | lexicographic => exact absurd (of_decide_eq_true h) ht
  | semantic =>
    refine ⟨rfl, ?_⟩
    cases hb : Release.parse? build with
    | none => exact absurd ((Release.newer_iff_text_lt (.inl hb)).mp h) ht
    | some b =>
      cases hp : Release.parse? published with
      | none => exact absurd ((Release.newer_iff_text_lt (.inr hp)).mp h) ht
      | some p => exact ⟨p, b, hp, hb, (Release.newer_iff_key_lt hb hp).mp h⟩

end CompareMode

end PublishGate
