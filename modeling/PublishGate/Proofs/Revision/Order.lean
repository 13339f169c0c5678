import PublishGate.Proofs.Version.Suffix
import PublishGate.Revision

/-! # The order of the versions that revisions give

Every version of a revision begins with its tag and reads as a release with the numbers of the tag. So
revisions after different tags stand in the order of the tags. Those after one tag stand below the
tag itself if it is a plain release, and among each other in the order of the texts of their
distances. -/

namespace PublishGate.Revision

open Release (parse? ofChars?)
open Text (decimal encode isBlank)

variable {r s : Revision} {tag : String} {n : ℕ ×ₗ ℕ ×ₗ ℕ}

structure At (r : Revision) (tag : String) : Prop where
  tagged : r.tag = some tag
  distance : r.distance = 0
  clean : r.dirty = false

structure After (r : Revision) (tag : String) : Prop where
  tagged : r.tag = some tag
  moved : 0 < r.distance ∨ r.dirty = true

/-- The numbers that the versions of a revision have from its tag, which is a version without blanks
in it. Without a tag they are those of 0.1.0. -/
inductive StartsAt : Option String → ℕ ×ₗ ℕ ×ₗ ℕ → Prop
  | tag {tag : String} {a : Release} (blankless : ∀ c ∈ tag.toList, isBlank c = false)
      (reads : parse? tag = some a) : StartsAt (some tag) a.numbers
  | noTag : StartsAt none (toLex (0, toLex (1, 0)))

theorem at_or_after (h : r.tag = some tag) : r.At tag ∨ r.After tag := by
  by_cases hd : r.distance = 0
  · cases hc : r.dirty with
    | false => exact .inl ⟨h, hd, hc⟩
    | true => exact .inr ⟨h, .inr hc⟩
  · exact .inr ⟨h, .inl (Nat.pos_of_ne_zero hd)⟩

/-! ## The texts of the versions -/

theorem At.text_eq (h : r.At tag) : r.buildVersion.text = tag := by
  simp [buildVersion, h.tagged, h.distance, h.clean]

theorem After.text_eq (h : r.After tag) :
    r.buildVersion.text = String.ofList (tag.toList ++
      '-' :: ("dev".toList ++ (decimal r.distance ++ '+' :: r.stamp.toList))) := by
  have hmoved : ¬ (r.distance = 0 ∧ r.dirty = false) := by
    rintro ⟨hd, hc⟩
    rcases h.moved with hpos | hdirty
    · omega
    · simp [hc] at hdirty
  simp [buildVersion, h.tagged, if_neg hmoved, ← String.toList_inj]

theorem text_of_noTag (h : r.tag = none) :
    r.buildVersion.text =
      String.ofList ("0.1.0".toList ++ '-' :: ("archeo+".toList ++ r.stamp.toList)) := by
  simp [buildVersion, h, ← String.toList_inj]

/-! ## The numbers of the versions -/

theorem After.exists_release {a : Release} (h : r.After tag)
    (hblank : ∀ c ∈ tag.toList, isBlank c = false) (ha : parse? tag = some a) :
    ∃ v, parse? r.buildVersion.text = some v ∧ v.triple = a.triple ∧ v.isPlain = false := by
  rw [h.text_eq, parse?, String.toList_ofList]
  exact Release.exists_ofChars?_append rfl hblank ha _

theorem exists_release (h : StartsAt r.tag n) :
    ∃ v, parse? r.buildVersion.text = some v ∧ v.numbers = n := by
  generalize ht : r.tag = t at h
  cases h with
  | @tag tag a hblank ha =>
    rcases at_or_after ht with hat | hafter
    · exact ⟨a, by rw [hat.text_eq, ha], rfl⟩
    · obtain ⟨v, hv, htriple, -⟩ := hafter.exists_release hblank ha
      exact ⟨v, hv, Release.triple_eq_iff.mp htriple⟩
  | noTag =>
    have hblank : ∀ c ∈ "0.1.0".toList, isBlank c = false := by simp [isBlank, Text.blankRanges]
    have hreads : ofChars? "0.1.0".toList = some ⟨0, 1, 0, []⟩ := by decide
    obtain ⟨v, hv, htriple, -⟩ := Release.exists_ofChars?_append (c := '-') rfl hblank hreads
      ("archeo+".toList ++ r.stamp.toList)
    refine ⟨v, ?_, Release.triple_eq_iff.mp htriple⟩
    rwa [text_of_noTag ht, parse?, String.toList_ofList]

/-! ## The order of the versions -/

/-- As releases, revisions stand in the order of their tags, whatever the rest of them is. The
revision at a plain release is above all revisions after it. -/
theorem isNewer_by_tag :
    (∀ (older newer : Revision) (m n : ℕ ×ₗ ℕ ×ₗ ℕ), StartsAt older.tag m → StartsAt newer.tag n →
      m < n →
      CompareMode.isNewer .semantic newer.buildVersion.text older.buildVersion.text = true ∧
      CompareMode.isNewer .semantic older.buildVersion.text newer.buildVersion.text = false) ∧
    ∀ (release later : Revision) (tag : String) (a : Release),
      (∀ c ∈ tag.toList, isBlank c = false) → parse? tag = some a → a.isPlain = true →
      release.At tag → later.After tag →
      CompareMode.isNewer .semantic release.buildVersion.text later.buildVersion.text = true ∧
      CompareMode.isNewer .semantic later.buildVersion.text release.buildVersion.text = false := by
  constructor
  · intro older newer m n hm hn hlt
    obtain ⟨v, hv, rfl⟩ := exists_release hm
    obtain ⟨w, hw, rfl⟩ := exists_release hn
    have hnewer : CompareMode.isNewer .semantic newer.buildVersion.text older.buildVersion.text =
        true := Release.newer_of_numbers_lt hw hv hlt
    exact ⟨hnewer, CompareMode.isNewer_asymm hnewer⟩
  · intro release later tag a hblank ha hplain hat hafter
    obtain ⟨v, hv, htriple, hsuffix⟩ := hafter.exists_release hblank ha
    have hrelease : parse? release.buildVersion.text = some a := by rw [hat.text_eq, ha]
    have hnewer : CompareMode.isNewer .semantic release.buildVersion.text later.buildVersion.text =
        true := Release.newer_of_isPlain hrelease hv htriple hplain hsuffix
    exact ⟨hnewer, CompareMode.isNewer_asymm hnewer⟩

/-- A candidate with a greatest patch number, a release above it, and a history without tags. -/
theorem isNewer_by_tag_among_candidates :
    let untagged : Revision := ⟨none, 0, "0a1b2c3", false⟩
    let candidate : Revision := ⟨some "v1.9.18446744073709551615-rc1", 0, "0a1b2c3", true⟩
    let release : Revision := ⟨some "1.010.0", 0, "4d5e6f7", false⟩
    let later : Revision := ⟨some "1.010.0", 12, "8a9b0c1", true⟩
    StartsAt untagged.tag (toLex (0, toLex (1, 0))) ∧
      StartsAt candidate.tag (toLex (1, toLex (9, 18446744073709551615))) ∧
      StartsAt later.tag (toLex (1, toLex (10, 0))) ∧
      release.At "1.010.0" ∧ later.After "1.010.0" ∧
      CompareMode.isNewer .semantic candidate.buildVersion.text untagged.buildVersion.text = true ∧
      CompareMode.isNewer .semantic candidate.buildVersion.text later.buildVersion.text = false ∧
      CompareMode.isNewer .semantic release.buildVersion.text later.buildVersion.text = true := by
  intro untagged candidate release later
  have hcandidate : StartsAt candidate.tag (toLex (1, toLex (9, 18446744073709551615))) :=
    .tag (a := ⟨1, 9, 18446744073709551615, "-rc1".toList⟩) (by simp [isBlank, Text.blankRanges])
      (by decide +kernel)
  have hblank : ∀ c ∈ "1.010.0".toList, isBlank c = false := by simp [isBlank, Text.blankRanges]
  have hreads : parse? "1.010.0" = some ⟨1, 10, 0, []⟩ := by decide
  have hlater : StartsAt later.tag (toLex (1, toLex (10, 0))) :=
    .tag (a := ⟨1, 10, 0, []⟩) hblank hreads
  have hat : release.At "1.010.0" := ⟨rfl, rfl, rfl⟩
  have hafter : later.After "1.010.0" := ⟨rfl, .inl (by decide)⟩
  obtain ⟨hbytag, hrelease⟩ := isNewer_by_tag
  exact ⟨.noTag, hcandidate, hlater, hat, hafter,
    (hbytag untagged candidate _ _ .noTag hcandidate (by decide)).1,
    (hbytag candidate later _ _ hcandidate hlater (by decide)).2,
    (hrelease release later _ _ hblank hreads rfl hat hafter).1⟩

/-- Up to the distance the texts after one tag are the same, and the plus sign behind it stands below
all digits. -/
theorem text_lt_text_iff (tag : String) {m n : ℕ} (hne : m ≠ n) (x y : List Char) :
    tag.toList ++ '-' :: ("dev".toList ++ (decimal m ++ '+' :: x)) <
        tag.toList ++ '-' :: ("dev".toList ++ (decimal n ++ '+' :: y)) ↔
      decimal m < decimal n := by
  have htexts : decimal m ≠ decimal n := mt Text.decimal_inj hne
  rw [Text.append_lt_append_iff, List.cons_lt_cons_self, Text.append_lt_append_iff,
    Text.append_cons_lt_iff (by decide) (Text.digitRun_decimal m).2 (Text.digitRun_decimal n).2
      htexts]

theorem isNewer_after (hr : r.After tag) (hs : s.After tag) (hne : r.distance ≠ s.distance)
    (mode : CompareMode) :
    mode.isNewer s.buildVersion.text r.buildVersion.text = true ↔
      decimal r.distance < decimal s.distance := by
  rw [hr.text_eq, hs.text_eq, mode.isNewer_append_iff rfl, text_lt_text_iff tag hne]

/-- After one tag only the distances count, and of them the texts: nothing else of the revisions, and
not the way to compare. Among distances with equally many digits the greater one is newer. -/
theorem isNewer_after_iff (hr : r.After tag) (hs : s.After tag) (hne : r.distance ≠ s.distance) :
    (∀ mode : CompareMode, mode.isNewer s.buildVersion.text r.buildVersion.text = true ↔
      encode (String.ofList (decimal r.distance)) < encode (String.ofList (decimal s.distance))) ∧
    (∀ (r' s' : Revision) (mode mode' : CompareMode), r'.After tag → s'.After tag →
      r'.distance = r.distance → s'.distance = s.distance →
      mode'.isNewer s'.buildVersion.text r'.buildVersion.text =
        mode.isNewer s.buildVersion.text r.buildVersion.text) ∧
    ((decimal r.distance).length = (decimal s.distance).length → ∀ mode : CompareMode,
      (mode.isNewer s.buildVersion.text r.buildVersion.text = true ↔ r.distance < s.distance)) := by
  have hnewer := isNewer_after hr hs hne
  refine ⟨?_, ?_, ?_⟩
  · intro mode
    rw [hnewer, Text.encode_lt_encode_iff, Text.ofList_lt_ofList_iff]
  · intro r' s' mode mode' hr' hs' hdr hds
    have hne' : r'.distance ≠ s'.distance := by rwa [hdr, hds]
    rw [Bool.eq_iff_iff, hnewer, isNewer_after hr' hs' hne', hdr, hds]
  · intro hlength mode
    rw [hnewer, Text.decimal_lt_decimal_iff hlength]

/-- Nine commits after a tag are newer than ten. -/
theorem isNewer_nine_than_ten :
    let ten : Revision := ⟨some "nightly", 10, "0a1b2c3", false⟩
    let nine : Revision := ⟨some "nightly", 9, "4d5e6f7", true⟩
    ten.After "nightly" ∧ nine.After "nightly" ∧ ten.distance ≠ nine.distance ∧
      encode (String.ofList (decimal 10)) < encode (String.ofList (decimal 9)) ∧
      ∀ mode : CompareMode,
        mode.isNewer nine.buildVersion.text ten.buildVersion.text = true := by
  intro ten nine
  have hten : ten.After "nightly" := ⟨rfl, .inl (by decide)⟩
  have hnine : nine.After "nightly" := ⟨rfl, .inr rfl⟩
  have hne : ten.distance ≠ nine.distance := by decide
  have htexts : encode (String.ofList (decimal 10)) < encode (String.ofList (decimal 9)) := by
    decide +kernel
  obtain ⟨hnewer, -⟩ := isNewer_after_iff hten hnine hne
  exact ⟨hten, hnine, hne, htexts, fun mode => (hnewer mode).mpr htexts⟩

end PublishGate.Revision
