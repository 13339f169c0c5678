import Mathlib.Data.List.Basic
import PublishGate.Proofs.Revision.Describe
import PublishGate.Proofs.World.Answers

/-! # Stable builds

A build whose version git tells is stable when the sources are exactly those of a release tag. The
address of the site follows from that, unless the options say which one it is. -/

namespace PublishGate

/-- The text reads `TAG-0-gCOMMIT`, where the tag is a bare triple of numbers with or without a `v`.
The zero may be written with a plus sign and more than once. -/
def OnReleaseTag (s : List Char) : Prop :=
  ∃ tag count commit, s = tag ++ '-' :: (count ++ '-' :: 'g' :: commit) ∧
    (commit ≠ [] ∧ '-' ∉ commit) ∧
    (∃ zeros, (count = zeros ∨ count = '+' :: zeros) ∧ zeros ≠ [] ∧ ∀ c ∈ zeros, c = '0') ∧
    ∃ release, (tag = release ∨ tag = 'v' :: release) ∧ DigitTriple release

/-- Nothing is changed in the working tree, and the commit is the one of a release tag. -/
structure AtRelease (table : GitQuery → GitReply) : Prop where
  clean : (table .status).stdout = []
  described : (table .describe).code = 0
  exact : OnReleaseTag (Text.trimChars (Text.decodeLossy (table .describe).stdout).toList)

namespace Text

theorem word?_eq_zero_iff {s : List Char} :
    word? s = some 0 ↔
      ∃ zeros, (s = zeros ∨ s = '+' :: zeros) ∧ zeros ≠ [] ∧ ∀ c ∈ zeros, c = '0' := by
  rw [word?_eq_some_iff]
  apply exists_congr
  intro ds
  apply and_congr_right
  intro _
  constructor
  · rintro ⟨hrun, hv, -⟩
    exact ⟨hrun.1, (digitsValue_eq_zero_iff hrun.2).mp hv⟩
  · rintro ⟨hne, hz⟩
    have hd : ∀ c ∈ ds, c.isDigit = true := by
      intro c hc
      rw [hz c hc]
      rfl
    exact ⟨⟨hne, hd⟩, (digitsValue_eq_zero_iff hd).mpr hz, by decide⟩

end Text

theorem Describe.onReleaseTag_iff {raw : String} :
    OnReleaseTag (Text.trimChars raw.toList) ↔
      ∃ d, parse? raw = some d ∧ d.distance = 0 ∧ DigitTriple (releaseTag d.tag).toList := by
  unfold parse?
  constructor
  · rintro ⟨tag, count, commit, hs, ⟨hne, hdash⟩, hzero, hrelease⟩
    have htag : tag ≠ [] := by
      obtain ⟨release, he, ht⟩ := hrelease
      obtain ⟨d, rest, rfl, -⟩ := ht.exists_digit_cons
      rcases he with rfl | rfl <;> simp
    refine ⟨⟨String.ofList tag, 0, String.ofList commit⟩, ?_, rfl, ?_⟩
    · rw [ofChars?_eq_some_iff]
      refine ⟨count, by simpa using hs, ?_, ?_, ?_, Text.word?_eq_zero_iff.mpr hzero⟩
      · simpa using htag
      · simpa using hne
      · simpa using hdash
    · rw [digitTriple_releaseTag]
      simpa using hrelease
  · rintro ⟨d, hd, hzero, ht⟩
    obtain ⟨count, hs, -, hne, hdash, hcount⟩ := ofChars?_eq_some_iff.mp hd
    rw [hzero] at hcount
    exact ⟨_, count, _, hs, ⟨by simpa using hne, hdash⟩, Text.word?_eq_zero_iff.mp hcount,
      digitTriple_releaseTag.mp ht⟩

namespace Revision

theorem isStable_ofDescribe_iff {described : Option Describe} {commit : String} {dirty : Bool} :
    (ofDescribe described commit dirty).buildVersion.isStable = true ↔
      dirty = false ∧ ∃ d, described = some d ∧ d.distance = 0 ∧
        DigitTriple (releaseTag d.tag).toList := by
  rw [isStable_buildVersion_iff]
  cases described with
  | none => simp [ofDescribe]
  | some d => simp [ofDescribe, and_left_comm]

end Revision

namespace World

variable {o : Options} {w w' : World} {dir : Path} {build : BuildVersion}

/-- Where git can be run at all, it replies to every question. -/
theorem answer_eq_ok {query : GitQuery} {reply : GitReply} (h : w.answer dir query = .ok reply) :
    ∃ table, w.git = some table ∧ ∀ query, w.answer dir query = .ok (table query) := by
  rcases w.runnable_cases dir with hrun | ⟨table, hdir, hgit⟩
  · obtain ⟨e, he⟩ := ask_of_not_runnable hrun query
    rw [answer, he] at h
    cases h
  · exact ⟨table, hgit, congrFun (answer_of_table hdir hgit)⟩

theorem exists_table_of_ofAnswers {r : Revision}
    (h : Revision.ofAnswers dir (w.answer dir) = .ok r) :
    ∃ table, w.git = some table ∧ ∀ query, w.answer dir query = .ok (table query) := by
  unfold Revision.ofAnswers at h
  cases hinside : w.answer dir .inside with
  | error e =>
    rw [hinside] at h
    cases h
  | ok reply => exact answer_eq_ok hinside

theorem buildVersion_eq_ok (ho : o.buildVersion = none)
    (h : (host.buildVersion o).run w = (.ok build, w')) :
    ∃ r, Revision.ofAnswers o.repoPath (w.answer o.repoPath) = .ok r ∧ build = r.buildVersion := by
  unfold Host.buildVersion at h
  rw [ho] at h
  obtain ⟨r, w₁, hask, hbuild⟩ := bind_eq_ok h
  have hr := congrArg Prod.fst (orFail_eq_ok hask)
  rw [ask_fst] at hr
  cases hbuild
  exact ⟨r, hr, rfl⟩

theorem isStable_buildVersion_iff_atRelease {table : GitQuery → GitReply} {r : Revision}
    (htable : ∀ query, w.answer dir query = .ok (table query))
    (hr : Revision.ofAnswers dir (w.answer dir) = .ok r) :
    r.buildVersion.isStable = true ↔ AtRelease table := by
  obtain ⟨asked, hinquiry⟩ := Revision.exists_inquiry dir (w.answer dir)
  rw [funext htable] at hinquiry hr
  rw [hinquiry.eq_ofDescribe hr, Revision.isStable_ofDescribe_iff]
  constructor
  · rintro ⟨hclean, d, hd, hexact⟩
    by_cases hcode : (table .describe).code = 0
    · rw [if_pos hcode] at hd
      have hstatus : (table .status).stdout = [] := by simpa using hclean
      exact ⟨hstatus, hcode, Describe.onReleaseTag_iff.mpr ⟨d, hd, hexact⟩⟩
    · simp [hcode] at hd
  · rintro ⟨hstatus, hcode, hexact⟩
    obtain ⟨d, hd, hexact⟩ := Describe.onReleaseTag_iff.mp hexact
    exact ⟨by simp [hstatus], d, by rw [if_pos hcode, hd], hexact⟩

/-- The version that git tells is a stable one exactly at a release, and that decides between the
two addresses. -/
theorem stable_iff_atRelease (ho : o.buildVersion = none)
    (h : (host.buildVersion o).run w = (.ok build, w')) :
    ∃ table, w.git = some table ∧ (build.isStable = true ↔ AtRelease table) ∧
      (o.stable = false → o.beta = false → ∀ site : DocsSite,
        (AtRelease table → o.siteUrl site build = site.baseUrl) ∧
        (¬ AtRelease table → o.siteUrl site build = site.baseUrl ++ site.betaSuffix)) := by
  obtain ⟨r, hr, rfl⟩ := buildVersion_eq_ok ho h
  obtain ⟨table, hgit, htable⟩ := exists_table_of_ofAnswers hr
  have hstable := isStable_buildVersion_iff_atRelease htable hr
  refine ⟨table, hgit, hstable, ?_⟩
  intro hs hb site
  have hurl : o.siteUrl site r.buildVersion = site.url r.buildVersion.isStable := by
    simp [Options.siteUrl, hs, hb, DocsSite.urlFor]
  rw [hurl, DocsSite.url]
  constructor
  · intro hat
    rw [if_pos (hstable.mpr hat)]
  · intro hat
    rw [if_neg (mt hstable.mp hat)]

/-- A clean commit on a tag with a `v`. -/
theorem stable_at_tag_with_v :
    let table : GitQuery → GitReply := fun
      | .describe => ⟨0, Text.encode "v2.4.0-+00-g0a1b2c3\n", []⟩
      | .head => ⟨0, Text.encode "0a1b2c3\n", []⟩
      | _ => ⟨0, [], []⟩
    let w : World :=
      { tree := ⟨[(["w"], .directory)]⟩
        cwd := ["w"], input := [], git := some table, server := ⟨"127.0.0.1", []⟩, clock := ⟨0, 0⟩ }
    let o : Options := {}
    o.buildVersion = none ∧ o.stable = false ∧ o.beta = false ∧
      ((host.buildVersion o).run w).1 = .ok ⟨"2.4.0"⟩ ∧ AtRelease table ∧
      o.siteUrl {} ⟨"2.4.0"⟩ = "https://protelis.github.io/wiki" := by
  intro table w o
  have hbuild : ((host.buildVersion o).run w).1 = .ok ⟨"2.4.0"⟩ := by decide +kernel
  obtain ⟨table', hgit, hstable, hurl⟩ :=
    stable_iff_atRelease (o := o) rfl (Prod.ext hbuild rfl)
  obtain rfl : table = table' := Option.some.inj hgit
  have hat : AtRelease table := hstable.mp (by decide)
  exact ⟨rfl, rfl, rfl, hbuild, hat, (hurl rfl rfl {}).1 hat⟩

end World

end PublishGate
