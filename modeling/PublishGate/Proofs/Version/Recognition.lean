import PublishGate.Page
import PublishGate.Proofs.Pattern.Language
import PublishGate.Proofs.Pattern.Longest
import PublishGate.Proofs.Version.Decoration
import PublishGate.Revision.Describe

/-! # Which texts are versions

The check for stable builds and the reader of releases go by the same grammar: three runs of digits
with points between them. The check takes nothing else, as the pattern of stable versions does. The
reader first takes off decoration, allows for a suffix, and holds the numbers to words of 64 bits. -/

namespace PublishGate

open Pattern Pattern.Expr

/-! ## The pattern of stable versions -/

def stableSource : String := "^[0-9]+(\\.[0-9]+){2}$"

def digitChars : Charset := .interval '0'.toNat '9'.toNat

def numberPart : Expr := .plus true (.chars digitChars)

/-- A point and a number, which the pattern has twice, as the same group. -/
def pointPart : Expr := .group 1 (.seq (.chars (.single '.')) numberPart)

def stableExpr : Expr :=
  .seq (.look .textStart) (.seq numberPart (.seq (.seq pointPart pointPart) (.look .textEnd)))

theorem read_stableSource : Pattern.read Pattern.sizeLimit stableSource.toList = .ok stableExpr := by
  decide +kernel

theorem contains_digitChars (c : Char) : digitChars.contains c = c.isDigit := by
  simp [digitChars, Charset.interval, Charset.contains, Charset.has, CodeRange.has, Char.isDigit]
  rfl

theorem denotes_numberPart : numberPart.Denotes Text.DigitRun :=
  (denotes_plus_chars true digitChars).congr fun _ => by simp [contains_digitChars, Text.DigitRun]

theorem denotes_pointPart :
    pointPart.Denotes fun cs => ∃ ds, cs = '.' :: ds ∧ Text.DigitRun ds := by
  refine (((denotes_chars (.single '.')).seq denotes_numberPart).congr fun cs => ?_).group
  simp [contains_single]

theorem matchesIn_stableExpr_iff {s : List Char} : stableExpr.MatchesIn s ↔ DigitTriple s := by
  rw [stableExpr, denotes_numberPart.matchesIn_iff (denotes_pointPart.seq denotes_pointPart)]
  constructor
  · rintro ⟨a, _, rfl, ha, _, _, rfl, ⟨b, rfl, hb⟩, c, rfl, hc⟩
    exact ⟨a, b, c, rfl, ha, hb, hc⟩
  · rintro ⟨a, b, c, rfl, ha, hb, hc⟩
    exact ⟨a, _, rfl, ha, '.' :: b, '.' :: c, rfl, ⟨b, rfl, hb⟩, c, rfl, hc⟩

namespace Release

open Text (DigitRun digitsValue wordBound isBlank)

variable {s core : List Char} {r : Release} {n : ℕ × ℕ × ℕ}

/-! ## The grammar of releases -/

structure Counted (ds : List Char) (n : ℕ) : Prop where
  run : DigitRun ds
  value : digitsValue ds = n
  word : n < wordBound

/-- The text is the three numbers with points between them and the suffix, which is empty or begins
with `-` or `+`. -/
def Written (r : Release) (s : List Char) : Prop :=
  ∃ a b c, s = a ++ '.' :: (b ++ '.' :: (c ++ r.suffix)) ∧
    Counted a r.major ∧ Counted b r.minor ∧ Counted c r.patch ∧
    ∀ d ∈ r.suffix.head?, d = '-' ∨ d = '+'

theorem Counted.word?_eq {ds : List Char} {n : ℕ} (h : Counted ds n) : Text.word? ds = some n := by
  obtain ⟨hrun, rfl, hword⟩ := h
  exact word?_digitRun hrun hword

/-- Where the suffix begins no sign is left to the numbers in front of it. -/
theorem counted_of_word? {ds : List Char} {n : ℕ} (hplus : '+' ∉ ds)
    (h : Text.word? ds = some n) : Counted ds n := by
  obtain ⟨digits, hds, hrun, hvalue, hword⟩ := Text.word?_eq_some_iff.mp h
  rcases hds with rfl | rfl
  · exact ⟨hrun, hvalue, hword⟩
  · simp at hplus

theorem counts_iff (hplus : '+' ∉ core) :
    Counts core n ↔ ∃ a b c, core = a ++ '.' :: (b ++ '.' :: c) ∧
      Counted a n.1 ∧ Counted b n.2.1 ∧ Counted c n.2.2 := by
  constructor
  · rintro ⟨a, b, c, hp, ha, hb, hc⟩
    obtain rfl := Text.eq_of_splitOn_eq_three hp
    simp only [List.mem_append, List.mem_cons, not_or] at hplus
    exact ⟨a, b, c, rfl, counted_of_word? hplus.1 ha, counted_of_word? hplus.2.2.1 hb,
      counted_of_word? hplus.2.2.2.2 hc⟩
  · rintro ⟨a, b, c, rfl, ha, hb, hc⟩
    exact ⟨a, b, c, Text.splitOn_digitRuns ha.run hb.run hc.run, ha.word?_eq, hb.word?_eq,
      hc.word?_eq⟩

theorem startsSuffix_iff {d : Char} : startsSuffix d = true ↔ d = '-' ∨ d = '+' := by
  simp [startsSuffix]

theorem cut_at_suffix {suffix : List Char} (hcore : ∀ c ∈ core, startsSuffix c = false)
    (hsuffix : ∀ d ∈ suffix.head?, startsSuffix d = true) :
    (core ++ suffix).takeWhile (!startsSuffix ·) = core ∧
      (core ++ suffix).dropWhile (!startsSuffix ·) = suffix := by
  have hkeep : ∀ c ∈ core, (!startsSuffix c) = true := fun c hc => by rw [hcore c hc]; rfl
  rw [List.takeWhile_append_of_pos hkeep, List.dropWhile_append_of_pos hkeep]
  cases suffix with
  | nil => simp
  | cons d suffix => simp [hsuffix d rfl]

/-- The reader accepts the grammar, on what is left without the decoration. -/
theorem ofChars?_iff_written : ofChars? s = some r ↔ r.Written (bare s) := by
  have hplus : '+' ∉ (bare s).takeWhile (!startsSuffix ·) := by
    intro hm
    have := List.mem_takeWhile_imp hm
    simp [startsSuffix] at this
  rw [ofChars?_eq_some_iff]
  constructor
  · rintro ⟨hcounts, hsuffix⟩
    obtain ⟨a, b, c, hcore, ha, hb, hc⟩ := (counts_iff hplus).mp hcounts
    have hsplit := List.takeWhile_append_dropWhile (p := (!startsSuffix ·)) (l := bare s)
    rw [hcore, ← hsuffix] at hsplit
    refine ⟨a, b, c, by rw [← hsplit]; simp, ha, hb, hc, ?_⟩
    intro d hd
    have hfirst := List.head?_dropWhile_not (!startsSuffix ·) (bare s)
    rw [← hsuffix, hd] at hfirst
    exact startsSuffix_iff.mp (by simpa using hfirst)
  · rintro ⟨a, b, c, hs, ha, hb, hc, hsuffix⟩
    have htriple : DigitTriple (a ++ '.' :: (b ++ '.' :: c)) := ⟨a, b, c, rfl, ha.run, hb.run, hc.run⟩
    have hs : bare s = (a ++ '.' :: (b ++ '.' :: c)) ++ r.suffix := by rw [hs]; simp
    obtain ⟨hcore, hrest⟩ := cut_at_suffix htriple.not_startsSuffix
      fun d hd => startsSuffix_iff.mpr (hsuffix d hd)
    rw [← hs] at hcore hrest
    exact ⟨(counts_iff hplus).mpr ⟨a, b, c, hcore, ha, hb, hc⟩, hrest.symm⟩

example : parse? " v007.0.18446744073709551615-rc.1 " =
    some ⟨7, 0, 18446744073709551615, "-rc.1".toList⟩ := by decide +kernel

/-! ## Plain releases and tags -/

/-- A plain release is a stable version whose numbers are words. -/
theorem exists_plain_iff {a : String} :
    (∃ r, parse? a = some r ∧ r.suffix = []) ↔
      (BuildVersion.mk (bareText a)).isStable = true ∧
        ∀ ds ∈ (bare a.toList).splitOn '.', digitsValue ds < wordBound := by
  have hbare : (bareText a).toList = bare a.toList := String.toList_ofList
  rw [BuildVersion.isStable_iff, hbare]
  constructor
  · rintro ⟨r, hr, hplain⟩
    obtain ⟨x, y, z, hs, hx, hy, hz, -⟩ := ofChars?_iff_written.mp hr
    rw [hplain, List.append_nil] at hs
    refine ⟨⟨x, y, z, hs, hx.run, hy.run, hz.run⟩, ?_⟩
    rw [hs, Text.splitOn_digitRuns hx.run hy.run hz.run]
    simp [hx.value, hy.value, hz.value, hx.word, hy.word, hz.word]
  · rintro ⟨⟨x, y, z, hs, hx, hy, hz⟩, hwords⟩
    rw [hs, Text.splitOn_digitRuns hx hy hz] at hwords
    simp only [List.forall_mem_cons] at hwords
    refine ⟨⟨digitsValue x, digitsValue y, digitsValue z, []⟩, ?_, rfl⟩
    exact ofChars?_iff_written.mpr ⟨x, y, z, by rw [hs, List.append_nil], ⟨hx, rfl, hwords.1⟩,
      ⟨hy, rfl, hwords.2.1⟩, ⟨hz, rfl, hwords.2.2.1⟩, by simp⟩

/-- The `v` that a tag loses is one that a reader takes off as well. -/
theorem bareText_releaseTag (tag : String) : bareText (releaseTag tag) = bareText tag := by
  unfold releaseTag
  split
  next d rest htag =>
    split
    next hd =>
      have hblank := Text.not_isBlank_of_isDigit hd
      have hv : d ≠ 'v' := by
        rintro rfl
        simp [Char.isDigit] at hd
      have htrim : Text.trimChars (d :: rest) = d :: rest.rdropWhile isBlank :=
        Text.trimChars_append_cons hblank [] rest
      have htrimTag : Text.trimChars ('v' :: d :: rest) = 'v' :: d :: rest.rdropWhile isBlank :=
        Text.trimChars_append_cons hblank ['v'] rest
      rw [bareText, bareText, String.toList_ofList, htag, bare_eq, bare_eq, htrim, htrimTag,
        afterV_of_ne hv]
      rfl
    next => rfl
  next => rfl

/-- What is stable is a bare triple of numbers, for the check and for the pattern alike, and what is
read as a release is such a triple of words, with a suffix or without, inside its decoration. So a
release without a suffix is one that is stable without the decoration; and nothing that is read of a
tag depends on the `v` that the tag loses. -/
theorem versions_recognised (s : String) :
    ((BuildVersion.mk s).isStable = true ↔ DigitTriple s.toList) ∧
      (∃ e, Pattern.read Pattern.sizeLimit stableSource.toList = .ok e ∧
        (((Program.ofExpr e).search s.toList).isSome = true ↔ DigitTriple s.toList)) ∧
      (∀ r, parse? s = some r ↔ r.Written (bare s.toList)) ∧
      ((∃ r, parse? s = some r ∧ r.suffix = []) ↔
        (BuildVersion.mk (bareText s)).isStable = true ∧
          ∀ ds ∈ (bare s.toList).splitOn '.', digitsValue ds < wordBound) ∧
      parse? (releaseTag s) = parse? s := by
  have hstable : (BuildVersion.mk s).isStable = true ↔ DigitTriple s.toList :=
    BuildVersion.isStable_iff
  refine ⟨hstable, ⟨stableExpr, read_stableSource, ?_⟩, ?_, exists_plain_iff, ?_⟩
  · rw [isSome_search_iff, matchesIn_stableExpr_iff]
  · exact fun _ => ofChars?_iff_written
  · exact parse?_congr (bareText_releaseTag s)

end Release

end PublishGate
