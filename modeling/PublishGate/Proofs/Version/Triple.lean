import PublishGate.Proofs.Text.Decimal
import PublishGate.Version.Build

/-! # Bare triples of numbers

Three runs of digits with a point between neighbours: the versions of stable builds. -/

namespace PublishGate

open Text (DigitRun)

/-- Three runs of ASCII digits, single points between them, and nothing else. -/
def DigitTriple (s : List Char) : Prop :=
  ∃ a b c, s = a ++ '.' :: (b ++ '.' :: c) ∧ DigitRun a ∧ DigitRun b ∧ DigitRun c

namespace Text

theorem DigitRun.not_point {s : List Char} (h : DigitRun s) : '.' ∉ s := by
  intro hm
  have hd := h.2 _ hm
  simp [Char.isDigit] at hd

theorem splitOn_digitRuns {a b c : List Char} (ha : DigitRun a) (hb : DigitRun b)
    (hc : DigitRun c) : (a ++ '.' :: (b ++ '.' :: c)).splitOn '.' = [a, b, c] := by
  rw [List.splitOn_append_cons_self, List.splitOn_append_cons_self,
    List.splitOn_eq_singleton ha.not_point, List.splitOn_eq_singleton hb.not_point,
    List.splitOn_eq_singleton hc.not_point]
  rfl

/-- Three pieces have two points between them. -/
theorem eq_of_splitOn_eq_three {s a b c : List Char} (h : s.splitOn '.' = [a, b, c]) :
    s = a ++ '.' :: (b ++ '.' :: c) := by
  have hjoin : ['.'].intercalate (s.splitOn '.') = s := List.intercalate_splitOn '.'
  rw [← hjoin, h]
  simp [List.intercalate_cons_cons, List.intercalate_singleton]

end Text

theorem isDigitTriple_iff {s : List Char} : isDigitTriple s = true ↔ DigitTriple s := by
  constructor
  · intro h
    unfold isDigitTriple at h
    split at h
    next a b c hp =>
      simp only [Bool.and_eq_true, Text.isNatural_iff] at h
      exact ⟨a, b, c, Text.eq_of_splitOn_eq_three hp, h.1.1, h.1.2, h.2⟩
    next => simp at h
  · rintro ⟨a, b, c, rfl, ha, hb, hc⟩
    have hp := Text.splitOn_digitRuns ha hb hc
    have ha := Text.isNatural_iff.mpr ha
    have hb := Text.isNatural_iff.mpr hb
    have hc := Text.isNatural_iff.mpr hc
    simp [isDigitTriple, hp, ha, hb, hc]

namespace DigitTriple

variable {s : List Char}

theorem digit_or_point (h : DigitTriple s) : ∀ c ∈ s, c.isDigit = true ∨ c = '.' := by
  obtain ⟨a, b, c, rfl, ha, hb, hc⟩ := h
  intro d hd
  simp only [List.mem_append, List.mem_cons] at hd
  rcases hd with hd | rfl | hd | rfl | hd
  · exact .inl (ha.2 d hd)
  · exact .inr rfl
  · exact .inl (hb.2 d hd)
  · exact .inr rfl
  · exact .inl (hc.2 d hd)

theorem not_dash (h : DigitTriple s) : '-' ∉ s := by
  intro hm
  have := h.digit_or_point _ hm
  simp [Char.isDigit] at this

theorem exists_digit_cons (h : DigitTriple s) : ∃ d rest, s = d :: rest ∧ d.isDigit = true := by
  obtain ⟨a, b, c, rfl, ha, -, -⟩ := h
  obtain ⟨d, a, rfl⟩ := List.exists_cons_of_ne_nil ha.1
  exact ⟨d, _, rfl, ha.2 d (by simp)⟩

end DigitTriple

theorem BuildVersion.isStable_iff {v : BuildVersion} :
    v.isStable = true ↔ DigitTriple v.text.toList :=
  isDigitTriple_iff

end PublishGate
