import PublishGate.Proofs.Text.Pieces
import PublishGate.Proofs.Version.Triple
import PublishGate.Revision

/-! # Descriptions of commits and the versions they give

A description is a tag, a number and a commit. Its tag alone becomes the version when the commit is
the tagged one and the working tree is clean; any other version has a dash in it. -/

namespace PublishGate

namespace Describe

/-- A description is cut at its last two dashes, so that a tag may have dashes in it. -/
theorem ofChars?_eq_some_iff {s : List Char} {d : Describe} :
    ofChars? s = some d ↔
      ∃ count, s = d.tag.toList ++ '-' :: (count ++ '-' :: 'g' :: d.commit.toList) ∧
        d.tag ≠ "" ∧ d.commit ≠ "" ∧ '-' ∉ d.commit.toList ∧
        Text.word? count = some d.distance := by
  constructor
  · intro h
    unfold ofChars? at h
    split at h
    next front commit hc =>
      obtain ⟨rfl, hcommit⟩ := Text.cutLast?_eq_some_iff.mp hc
      split at h
      next tag count ht =>
        obtain ⟨rfl, -⟩ := Text.cutLast?_eq_some_iff.mp ht
        split at h
        next distance hd =>
          split at h
          · simp at h
          next hne =>
            obtain rfl := Option.some.inj h
            simp only [Bool.or_eq_true, List.isEmpty_iff, not_or] at hne
            refine ⟨count, by simp, ?_, ?_, ?_, hd⟩
            · simpa using hne.1
            · simpa using hne.2
            · simpa using hcommit
        next => simp at h
      next => simp at h
    next => simp at h
  · rintro ⟨count, rfl, htag, hne, hcommit, hd⟩
    have hcount : '-' ∉ count := by
      obtain ⟨ds, hds, hrun, -⟩ := Text.word?_eq_some_iff.mp hd
      have hdash : '-' ∉ ds := fun hm => by simpa [Char.isDigit] using hrun.2 _ hm
      rcases hds with rfl | rfl
      · exact hdash
      · simpa using hdash
    have hlast : Text.cutLast? '-' (d.tag.toList ++ '-' :: (count ++ '-' :: 'g' :: d.commit.toList)) =
        some (d.tag.toList ++ '-' :: count, 'g' :: d.commit.toList) :=
      Text.cutLast?_eq_some_iff.mpr ⟨by simp, by simpa using hcommit⟩
    have hfront : Text.cutLast? '-' (d.tag.toList ++ '-' :: count) = some (d.tag.toList, count) :=
      Text.cutLast?_eq_some_iff.mpr ⟨rfl, hcount⟩
    simp [ofChars?, hlast, hfront, hd, htag, hne]

end Describe

/-- The tags of bare triples: with a `v` in front or without. -/
theorem digitTriple_releaseTag {tag : String} :
    DigitTriple (releaseTag tag).toList ↔
      ∃ release, (tag.toList = release ∨ tag.toList = 'v' :: release) ∧ DigitTriple release := by
  unfold releaseTag
  split
  next d rest htag =>
    split
    · rw [String.toList_ofList]
      constructor
      · intro h
        exact ⟨d :: rest, .inr htag, h⟩
      · rintro ⟨release, he | he, h⟩
        · obtain ⟨e, t, rfl, hd⟩ := h.exists_digit_cons
          obtain ⟨rfl, -⟩ := List.cons.inj (htag.symm.trans he)
          simp [Char.isDigit] at hd
        · obtain ⟨-, rfl⟩ := List.cons.inj (htag.symm.trans he)
          exact h
    next hdigit =>
      constructor
      · intro h
        exact ⟨_, .inl rfl, h⟩
      · rintro ⟨release, he | he, h⟩
        · exact he ▸ h
        · obtain ⟨e, t, rfl, hd⟩ := h.exists_digit_cons
          obtain ⟨-, he⟩ := List.cons.inj (htag.symm.trans he)
          obtain ⟨rfl, -⟩ := List.cons.inj he
          exact absurd hd hdigit
  next hv =>
    constructor
    · intro h
      exact ⟨_, .inl rfl, h⟩
    · rintro ⟨release, he | he, h⟩
      · exact he ▸ h
      · obtain ⟨e, t, rfl, -⟩ := h.exists_digit_cons
        exact absurd he (hv e t)

namespace Revision

variable {r : Revision}

theorem not_isStable_of_dash {v : BuildVersion} (h : '-' ∈ v.text.toList) : ¬ v.isStable = true :=
  fun hs => (BuildVersion.isStable_iff.mp hs).not_dash h

/-- Only a clean commit on the tag of a bare triple gives a stable version. -/
theorem isStable_buildVersion_iff :
    r.buildVersion.isStable = true ↔
      ∃ tag, r.tag = some tag ∧ r.distance = 0 ∧ r.dirty = false ∧ DigitTriple tag.toList := by
  unfold buildVersion
  split
  next tag htag =>
    split
    next hexact =>
      rw [BuildVersion.isStable_iff]
      simp [htag, hexact]
    next hexact =>
      have hdash : ¬ BuildVersion.isStable
          ⟨tag ++ "-dev" ++ String.ofList (Text.decimal r.distance) ++ "+" ++ r.stamp⟩ = true :=
        not_isStable_of_dash (by simp)
      refine iff_of_false hdash ?_
      rintro ⟨-, -, hd, hc, -⟩
      exact hexact ⟨hd, hc⟩
  next htag =>
    have hdash : ¬ BuildVersion.isStable ⟨"0.1.0-archeo+" ++ r.stamp⟩ = true :=
      not_isStable_of_dash (by simp)
    simp [hdash, htag]

end Revision

end PublishGate
