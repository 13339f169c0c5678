import PublishGate.Proofs.Revision.Order
import PublishGate.Proofs.Text.Blank
import PublishGate.Proofs.Text.Pieces

/-! # Different states of the sources have different versions

A tag may be any text, also one that looks like a version of another state. Still a development
version says which state it is of: read from its end, it has the commit and the mark of changes
behind the last plus sign, in front of that the distance as far as digits go, and then the tag. -/

namespace PublishGate

/-- Behind a character that is no digit, a text has one run of digits at its end. -/
theorem Text.append_digits_inj {c : Char} {front front' ds es : List Char}
    (hc : c.isDigit = false) (hd : ∀ d ∈ ds, d.isDigit = true) (he : ∀ e ∈ es, e.isDigit = true)
    (h : front ++ c :: ds = front' ++ c :: es) : front = front' ∧ ds = es := by
  have hcut := congrArg (List.rdropWhile Char.isDigit) h
  rw [rdropWhile_append_cons hc, rdropWhile_append_cons hc, List.rdropWhile_eq_nil_iff.mpr hd,
    List.rdropWhile_eq_nil_iff.mpr he] at hcut
  obtain rfl := List.append_cancel_right hcut
  have hrest := List.append_cancel_left h
  exact ⟨rfl, List.tail_eq_of_cons_eq hrest⟩

namespace Revision

open Text (decimal)

variable {r s : Revision} {tag tag' : String}

/-- A state of the sources that is not a clean commit on a tag, with a commit that can be told from
the mark of changes. Without a tag there is nothing to count a distance from. -/
structure Developing (r : Revision) : Prop where
  commit_plus : '+' ∉ r.commit.toList
  commit_point : '.' ∉ r.commit.toList
  untagged : r.tag = none → r.distance = 0
  moved : r.tag = none ∨ 0 < r.distance ∨ r.dirty = true

/-! ## The parts of a development version -/

def front (r : Revision) : List Char :=
  match r.tag with
  | some tag => tag.toList ++ "-de".toList ++ 'v' :: decimal r.distance
  | none => "0.1.0-archeo".toList

theorem front_of_tag (h : r.tag = some tag) :
    r.front = tag.toList ++ "-de".toList ++ 'v' :: decimal r.distance := by
  rw [front, h]

theorem front_of_noTag (h : r.tag = none) : r.front = "0.1.0-archeo".toList := by
  rw [front, h]

theorem Developing.toList_text (h : r.Developing) :
    r.buildVersion.text.toList = r.front ++ '+' :: r.stamp.toList := by
  cases ht : r.tag with
  | none => simp [text_of_noTag ht, front_of_noTag ht]
  | some tag =>
    have hafter : r.After tag := ⟨ht, h.moved.resolve_left (by simp [ht])⟩
    simp [hafter.text_eq, front_of_tag ht]

theorem Developing.plus_not_mem_stamp (h : r.Developing) : '+' ∉ r.stamp.toList := by
  unfold stamp
  split <;> simp [h.commit_plus]

/-- The last plus sign of a version is the one behind the front. -/
theorem Developing.cutLast?_text (h : r.Developing) :
    Text.cutLast? '+' r.buildVersion.text.toList = some (r.front, r.stamp.toList) :=
  Text.cutLast?_eq_some_iff.mpr ⟨h.toList_text, h.plus_not_mem_stamp⟩

theorem point_mem_stamp_iff (h : '.' ∉ r.commit.toList) :
    '.' ∈ r.stamp.toList ↔ r.dirty = true := by
  cases hd : r.dirty <;> simp [stamp, hd, h]

theorem eq_of_stamp_eq (hr : '.' ∉ r.commit.toList) (hs : '.' ∉ s.commit.toList)
    (h : r.stamp = s.stamp) : r.commit = s.commit ∧ r.dirty = s.dirty := by
  have hdirty : r.dirty = s.dirty := by
    rw [Bool.eq_iff_iff, ← point_mem_stamp_iff hr, h, point_mem_stamp_iff hs]
  refine ⟨?_, hdirty⟩
  unfold stamp at h
  rw [hdirty] at h
  split at h
  · simpa [← String.toList_inj] using h
  · exact h

/-- A front ends in a digit exactly when there is a tag. -/
theorem any_isDigit_getLast?_front (r : Revision) :
    r.front.getLast?.any Char.isDigit = r.tag.isSome := by
  cases ht : r.tag with
  | none => simp [front_of_noTag ht, Char.isDigit]
  | some tag =>
    obtain ⟨hne, hdigits⟩ := Text.digitRun_decimal r.distance
    have hlast : r.front.getLast? = some ((decimal r.distance).getLast hne) := by
      rw [front_of_tag ht, List.getLast?_append_of_ne_nil _ (by simp),
        List.getLast?_cons_of_ne_nil hne, List.getLast?_eq_some_getLast hne]
    rw [hlast]
    exact hdigits _ (List.getLast_mem hne)

theorem eq_of_front_eq (hr : r.Developing) (hs : s.Developing) (h : r.front = s.front) :
    r.tag = s.tag ∧ r.distance = s.distance := by
  have htags : r.tag.isSome = s.tag.isSome := by
    rw [← any_isDigit_getLast?_front, h, any_isDigit_getLast?_front]
  cases hrt : r.tag with
  | none =>
    have hst : s.tag = none := by
      rw [hrt] at htags
      exact Option.isNone_iff_eq_none.mp (Option.isSome_eq_false_iff.mp htags.symm)
    rw [hr.untagged hrt, hs.untagged hst, hst]
    exact ⟨rfl, rfl⟩
  | some tag =>
    obtain ⟨tag', hst⟩ := Option.isSome_iff_exists.mp (htags.symm.trans (by simp [hrt]))
    rw [front_of_tag hrt, front_of_tag hst] at h
    obtain ⟨hlead, hdigits⟩ := Text.append_digits_inj rfl (Text.digitRun_decimal r.distance).2
      (Text.digitRun_decimal s.distance).2 h
    have htag : tag = tag' := String.toList_injective (List.append_cancel_right hlead)
    exact ⟨by rw [hst, htag], Text.decimal_inj hdigits⟩

/-- Two states of the sources with the same development version are the same state. -/
theorem buildVersion_eq_iff (hr : r.Developing) (hs : s.Developing) :
    r.buildVersion = s.buildVersion ↔ r = s := by
  constructor
  · intro h
    have hcut := hr.cutLast?_text
    rw [h, hs.cutLast?_text] at hcut
    obtain ⟨hfront, hstamp⟩ := Prod.mk.inj (Option.some.inj hcut)
    obtain ⟨htag, hdistance⟩ := eq_of_front_eq hr hs hfront.symm
    obtain ⟨hcommit, hdirty⟩ := eq_of_stamp_eq hr.commit_point hs.commit_point
      (String.toList_injective hstamp.symm)
    cases r
    cases s
    rw [mk.injEq]
    exact ⟨htag, hdistance, hcommit, hdirty⟩
  · rintro rfl
    rfl

/-- Tags that end like a version, one of them like the version of a history without tags. -/
theorem text_ne_of_versionlike_tags :
    let plain : Revision := ⟨some "0.1.0", 12, "0a1b2c3", true⟩
    let counted : Revision := ⟨some "0.1.0-dev1", 2, "0a1b2c3", true⟩
    let archeo : Revision := ⟨some "0.1.0-archeo+0a1b2c3.dirty", 0, "", true⟩
    let untagged : Revision := ⟨none, 0, "0a1b2c3", true⟩
    plain.Developing ∧ counted.Developing ∧ archeo.Developing ∧ untagged.Developing ∧
      plain.buildVersion ≠ counted.buildVersion ∧
      archeo.buildVersion ≠ untagged.buildVersion := by
  intro plain counted archeo untagged
  have hplain : plain.Developing := by constructor <;> simp [plain]
  have hcounted : counted.Developing := by constructor <;> simp [counted]
  have harcheo : archeo.Developing := by constructor <;> simp [archeo]
  have huntagged : untagged.Developing := by constructor <;> simp [untagged]
  refine ⟨hplain, hcounted, harcheo, huntagged, ?_, ?_⟩
  · rw [ne_eq, buildVersion_eq_iff hplain hcounted]
    decide
  · rw [ne_eq, buildVersion_eq_iff harcheo huntagged]
    decide

end Revision

end PublishGate
