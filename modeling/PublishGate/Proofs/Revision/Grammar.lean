import PublishGate.Proofs.Revision.Describe
import PublishGate.Proofs.Text.Blank

/-! # The grammar of descriptions

A description is written `TAG-COUNT-gCOMMIT`. The tag may hold dashes, and even a description of its
own; still a text is read in one way at most, since neither the count nor the commit has a dash. -/

namespace PublishGate.Describe

open Text (DigitRun Trimmed digitsValue isBlank wordBound)

variable {d d' : Describe} {s count count' : List Char}

structure Written (d : Describe) (count s : List Char) : Prop where
  split : s = d.tag.toList ++ '-' :: (count ++ '-' :: 'g' :: d.commit.toList)
  tag_ne : d.tag ≠ ""
  commit_ne : d.commit ≠ ""
  commit_dash : '-' ∉ d.commit.toList
  counted : ∃ digits, (count = digits ∨ count = '+' :: digits) ∧ DigitRun digits ∧
    digitsValue digits = d.distance
  word : d.distance < wordBound

theorem ofChars?_iff_written : ofChars? s = some d ↔ ∃ count, d.Written count s := by
  simp only [ofChars?_eq_some_iff, Text.word?_eq_some_iff]
  constructor
  · rintro ⟨count, hs, htag, hcommit, hdash, digits, hcount, hrun, hvalue, hword⟩
    exact ⟨count, hs, htag, hcommit, hdash, ⟨digits, hcount, hrun, hvalue⟩, hword⟩
  · rintro ⟨count, h⟩
    obtain ⟨digits, hcount, hrun, hvalue⟩ := h.counted
    exact ⟨count, h.split, h.tag_ne, h.commit_ne, h.commit_dash, digits, hcount, hrun, hvalue, h.word⟩

theorem Written.unique (h : d.Written count s) (h' : d'.Written count' s) :
    d = d' ∧ count = count' := by
  have hread := ofChars?_iff_written.mpr ⟨count, h⟩
  have hread' := ofChars?_iff_written.mpr ⟨count', h'⟩
  obtain rfl : d = d' := Option.some.inj (hread.symm.trans hread')
  have hsplit := h.split.symm.trans h'.split
  simpa using hsplit

def text (d : Describe) : String :=
  d.tag ++ "-" ++ String.ofList (Text.decimal d.distance) ++ "-g" ++ d.commit

/-- What a description needs to be read back from its text, whatever blanks are around it. -/
structure Readable (d : Describe) : Prop where
  tag_ne : d.tag ≠ ""
  tag_first : ∀ c ∈ d.tag.toList.head?, isBlank c = false
  commit_ne : d.commit ≠ ""
  commit_last : ∀ c ∈ d.commit.toList.getLast?, isBlank c = false
  commit_dash : '-' ∉ d.commit.toList
  word : d.distance < wordBound

theorem toList_text (d : Describe) :
    d.text.toList =
      d.tag.toList ++ '-' :: (Text.decimal d.distance ++ '-' :: 'g' :: d.commit.toList) := by
  simp [text]

theorem Readable.written (h : d.Readable) : d.Written (Text.decimal d.distance) d.text.toList where
  split := d.toList_text
  tag_ne := h.tag_ne
  commit_ne := h.commit_ne
  commit_dash := h.commit_dash
  counted := ⟨_, .inl rfl, Text.digitRun_decimal _, Text.digitsValue_decimal _⟩
  word := h.word

theorem Readable.trimmed (h : d.Readable) : Trimmed d.text.toList := by
  have htag : d.tag.toList ≠ [] := mt String.toList_eq_nil_iff.mp h.tag_ne
  have hcommit : d.commit.toList ≠ [] := mt String.toList_eq_nil_iff.mp h.commit_ne
  constructor
  · intro c hc
    refine h.tag_first c ?_
    rwa [toList_text, List.head?_append_of_ne_nil _ htag] at hc
  · intro c hc
    refine h.commit_last c ?_
    rwa [text, String.toList_append, List.getLast?_append_of_ne_nil _ hcommit] at hc

theorem parse?_of_readable {before after : String} (h : d.Readable)
    (hbefore : ∀ c ∈ before.toList, isBlank c = true)
    (hafter : ∀ c ∈ after.toList, isBlank c = true) :
    parse? (before ++ (d.text ++ after)) = some d := by
  have htrim := h.trimmed.trimChars_eq hbefore hafter
  rw [parse?, String.toList_append, String.toList_append, htrim, ofChars?_iff_written]
  exact ⟨_, h.written⟩

/-- What is read is what the grammar has for the text without the blanks around it. No text is two
descriptions, and every description that can stand at the ends of a text is read back from it. -/
theorem parse?_exact :
    (∀ (raw : String) (d : Describe), parse? raw = some d ↔
        ∃ count, d.Written count (Text.trimChars raw.toList)) ∧
      (∀ (d d' : Describe) (count count' s : List Char), d.Written count s → d'.Written count' s →
        d = d' ∧ count = count') ∧
      ∀ (d : Describe) (before after : String), d.Readable →
        (∀ c ∈ before.toList, isBlank c = true) → (∀ c ∈ after.toList, isBlank c = true) →
        parse? (before ++ (d.text ++ after)) = some d :=
  ⟨fun _ _ => ofChars?_iff_written, fun _ _ _ _ _ => Written.unique,
    fun _ _ _ => parse?_of_readable⟩

/-- A tag that looks like a description itself, and the greatest distance of all. -/
theorem parse?_tag_like_description :
    let d : Describe := ⟨"release-3-gabc", 18446744073709551615, "0a1b2c3"⟩
    d.Readable ∧ (∀ c ∈ "\n ".toList, isBlank c = true) ∧ (∀ c ∈ " \t".toList, isBlank c = true) ∧
      parse? "\n release-3-gabc-18446744073709551615-g0a1b2c3 \t" = some d := by
  intro d
  have hd : d.Readable := by
    constructor <;> simp [d, isBlank, Text.blankRanges, wordBound]
  have hbefore : ∀ c ∈ "\n ".toList, isBlank c = true := by simp [isBlank, Text.blankRanges]
  have hafter : ∀ c ∈ " \t".toList, isBlank c = true := by simp [isBlank, Text.blankRanges]
  have hread : parse? ("\n " ++ (d.text ++ " \t")) = some d :=
    parse?_exact.2.2 d "\n " " \t" hd hbefore hafter
  have htext : "\n " ++ (d.text ++ " \t") = "\n release-3-gabc-18446744073709551615-g0a1b2c3 \t" := by
    decide +kernel
  exact ⟨hd, hbefore, hafter, htext ▸ hread⟩

end PublishGate.Describe
