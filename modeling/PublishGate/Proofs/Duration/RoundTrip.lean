import PublishGate.Duration.Printer
import PublishGate.Duration.Reader
import PublishGate.Proofs.Text.Decimal

/-! # Durations read back from their text -/

namespace PublishGate.Duration

/-- From this phase, and with `d` read so far, the text reads as `r`, wherever it begins. -/
def Reads (phase : Phase) (d : Duration) (s : List Char) (r : Duration) : Prop :=
  ∀ offset, readFrom phase d offset s = .ok r

variable {d d' r : Duration} {s : List Char} {c : Char} {n since : Nat} {start : Bool}

theorem Reads.cons {phase : Phase} (h : ∀ offset, ∃ next, step phase d offset c = .ok (next, d') ∧
    Reads next d' s r) : Reads phase d (c :: s) r := by
  intro offset
  obtain ⟨next, hs, hr⟩ := h offset
  simp only [readFrom, hs]
  exact hr _

/-! ## Numbers -/

theorem Reads.first_digit (hc : c.isDigit = true)
    (h : Reads (.whole (Text.digitValue c)) d s r) : Reads (.seeking since start) d (c :: s) r :=
  .cons fun _ => ⟨_, by simp [step, hc], h⟩

theorem Reads.digit (hc : c.isDigit = true)
    (hn : 10 * n + Text.digitValue c < 0x10000000000000000)
    (h : Reads (.whole (10 * n + Text.digitValue c)) d s r) : Reads (.whole n) d (c :: s) r :=
  .cons fun _ => ⟨_, by simp only [step, hc, shift, within, if_pos hn]; rfl, h⟩

theorem Reads.digits {ds : List Char} (hd : ∀ c ∈ ds, c.isDigit = true)
    (hn : ds.foldl (fun n c => 10 * n + Text.digitValue c) n < 0x10000000000000000)
    (h : Reads (.whole (ds.foldl (fun n c => 10 * n + Text.digitValue c) n)) d s r) :
    Reads (.whole n) d (ds ++ s) r := by
  induction ds generalizing n with
  | nil => exact h
  | cons c ds ih =>
    have hc : 10 * n + Text.digitValue c < 0x10000000000000000 :=
      Nat.lt_of_le_of_lt (Text.le_foldl_digits _ ds) hn
    exact .digit (hd c (by simp)) hc (ih (fun x hx => hd x (by simp [hx])) hn h)

theorem Reads.decimal (hn : n < 0x10000000000000000) (h : Reads (.whole n) d s r) :
    Reads (.seeking since start) d (Text.decimal n ++ s) r := by
  have hv := Text.digitsValue_decimal n
  obtain ⟨c, ds, hds⟩ := List.exists_cons_of_ne_nil (Text.decimal_ne_nil n)
  have hd : ∀ x ∈ c :: ds, x.isDigit = true := by
    intro x hx
    exact Text.isDigit_of_mem_decimal (hds ▸ hx)
  rw [hds] at hv ⊢
  simp only [Text.digitsValue, List.foldl_cons, Nat.mul_zero, Nat.zero_add] at hv
  refine .first_digit (hd c (by simp)) (.digits (fun x hx => hd x (by simp [hx])) ?_ ?_)
  · rwa [hv]
  · rwa [hv]

/-! ## Units -/

def isNameChar (c : Char) : Bool :=
  isUnitChar c && !c.isDigit && !Text.isBlank c

theorem Reads.first_name_char (hc : isNameChar c = true) (h : Reads (.unit n none [c]) d s r) :
    Reads (.whole n) d (c :: s) r := by
  simp only [isNameChar, Bool.and_eq_true, Bool.not_eq_true'] at hc
  obtain ⟨⟨hu, hd⟩, hb⟩ := hc
  exact .cons fun _ => ⟨_, by simp [step, hu, hd, hb], h⟩

theorem Reads.name_char {front : List Char} (hc : isNameChar c = true)
    (h : Reads (.unit n none (front ++ [c])) d s r) : Reads (.unit n none front) d (c :: s) r := by
  simp only [isNameChar, Bool.and_eq_true, Bool.not_eq_true'] at hc
  obtain ⟨⟨hu, hd⟩, hb⟩ := hc
  exact .cons fun _ => ⟨_, by simp [step, hu, hd, hb], h⟩

theorem Reads.name_rest {front name : List Char} (hname : ∀ c ∈ name, isNameChar c = true)
    (h : Reads (.unit n none (front ++ name)) d s r) :
    Reads (.unit n none front) d (name ++ s) r := by
  induction name generalizing front with
  | nil => simpa using h
  | cons c name ih =>
    refine .name_char (hname c (by simp)) (ih (fun x hx => hname x (by simp [hx])) ?_)
    simpa using h

theorem Reads.name {name : List Char} (hne : name ≠ [])
    (hname : ∀ c ∈ name, isNameChar c = true) (h : Reads (.unit n none name) d s r) :
    Reads (.whole n) d (name ++ s) r := by
  cases name with
  | nil => exact absurd rfl hne
  | cons c name =>
    refine .first_name_char (hname c (by simp)) (.name_rest (fun x hx => hname x (by simp [hx])) ?_)
    simpa using h

theorem Reads.space {name : List Char} (ha : d.addUnits n none (String.ofList name) = .ok d')
    (h : ∀ since, Reads (.seeking since false) d' s r) :
    Reads (.unit n none name) d (' ' :: s) r := by
  have hd : ' '.isDigit = false := by decide
  have hb : Text.isBlank ' ' = true := by decide
  exact .cons fun _ => ⟨_, by simp only [step, hd, hb, ha]; rfl, h _⟩

theorem Reads.done {name : List Char} (ha : d.addUnits n none (String.ofList name) = .ok r) :
    Reads (.unit n none name) d [] r :=
  fun _ => ha

/-! ## Counts with their units -/

/-- A count, the name of its unit, and whether that is a word. -/
abbrev Part := Nat × String × Bool

namespace Part

def name (p : Part) : List Char :=
  p.2.1.toList ++ if p.2.2 && p.1 != 1 then ['s'] else []

def unit (p : Part) : TimeUnit :=
  (TimeUnit.ofName? p.2.1).getD .second

def seconds (p : Part) : Nat := p.1 * p.unit.length.1

def nanos (p : Part) : Nat := p.1 * p.unit.length.2

structure Readable (p : Part) : Prop where
  ne_nil : p.name ≠ []
  chars : ∀ c ∈ p.name, isNameChar c = true
  unit : TimeUnit.ofName? (String.ofList p.name) = some p.unit

theorem toList_item (p : Part) : (item p.1 p.2.1 p.2.2).toList = Text.decimal p.1 ++ p.name := by
  simp only [item, name, Nat.toString_eq_repr, String.toList_append, Nat.toList_repr,
    Text.decimal, List.append_assoc]
  split <;> rfl

/-- A name is readable when it is so with and without the `s` that it may take. -/
theorem readable_of_both {name : String} {word : Bool} {count : Nat}
    (h : ∀ plural : Bool, let p : Part := (if plural then 0 else 1, name, word)
      p.name ≠ [] ∧ p.name.all isNameChar = true ∧
        TimeUnit.ofName? (String.ofList p.name) = some p.unit) :
    Readable (count, name, word) := by
  have hn : Part.name (count, name, word) =
      Part.name (if count != 1 then 0 else 1, name, word) := by
    by_cases hc : count = 1 <;> simp [Part.name, hc]
  obtain ⟨hne, hchars, hunit⟩ := h (count != 1)
  exact ⟨hn ▸ hne, hn ▸ List.all_eq_true.mp hchars, hn ▸ hunit⟩

end Part

theorem readable_of_mem_counts {p : Part} (hp : p ∈ d.counts) : p.Readable := by
  simp only [counts, List.mem_cons, List.not_mem_nil, or_false] at hp
  rcases hp with rfl | rfl | rfl | rfl | rfl | rfl | rfl | rfl | rfl
  all_goals exact Part.readable_of_both (by decide)

theorem ext {a b : Duration} (hs : a.seconds = b.seconds) (hn : a.nanos = b.nanos) : a = b := by
  cases a
  cases b
  simp_all

def total (f : Part → Nat) : List Part → Nat
  | [] => 0
  | p :: parts => f p + total f parts

def addAll (d : Duration) (parts : List Part) : Except Fault Duration :=
  parts.foldlM (fun d p => d.addUnits p.1 none (String.ofList p.name)) d

theorem addUnits_eq {p : Part} (hp : p.Readable) (hs : d.seconds + p.seconds < 0x10000000000000000)
    (hn : d.nanos + p.nanos < 1000000000) :
    d.addUnits p.1 none (String.ofList p.name) =
      .ok ⟨d.seconds + p.seconds, d.nanos + p.nanos, hs, hn⟩ := by
  have hs' : p.1 * p.unit.length.1 < 0x10000000000000000 := by
    unfold Part.seconds at hs
    omega
  have hn' : p.1 * p.unit.length.2 < 0x10000000000000000 := by
    unfold Part.nanos at hn
    omega
  have hp' : d.plus? p.seconds p.nanos =
      some ⟨d.seconds + p.seconds, d.nanos + p.nanos, hs, hn⟩ := by
    have hdiv : (d.nanos + p.nanos) / 1000000000 = 0 := Nat.div_eq_of_lt hn
    have hmod : (d.nanos + p.nanos) % 1000000000 = d.nanos + p.nanos := Nat.mod_eq_of_lt hn
    have hword : d.nanos + p.nanos < 0x10000000000000000 := by omega
    have hsum : d.seconds + p.seconds + (d.nanos + p.nanos) / 1000000000 < 0x10000000000000000 := by
      rwa [hdiv]
    rw [plus?, dif_pos hsum, if_pos hword]
    simp only [hdiv, hmod, Nat.add_zero]
  unfold Part.seconds Part.nanos at hp'
  simp only [addUnits, hp.unit, within, if_pos hs', if_pos hn']
  simp only [bind, Except.bind, lengthen, hp']
  rfl

theorem addAll_eq {parts : List Part} (hparts : ∀ p ∈ parts, p.Readable)
    (hs : d.seconds + total Part.seconds parts < 0x10000000000000000)
    (hn : d.nanos + total Part.nanos parts < 1000000000) :
    d.addAll parts = .ok ⟨d.seconds + total Part.seconds parts,
      d.nanos + total Part.nanos parts, hs, hn⟩ := by
  induction parts generalizing d with
  | nil => rfl
  | cons p parts ih =>
    simp only [total, ← Nat.add_assoc] at hs hn ⊢
    have hs' : d.seconds + p.seconds < 0x10000000000000000 := by omega
    have hn' : d.nanos + p.nanos < 1000000000 := by omega
    have ha := addUnits_eq (hparts p (by simp)) hs' hn'
    unfold addAll
    rw [List.foldlM_cons, ha]
    exact ih (fun q hq => hparts q (by simp [hq])) hs hn

/-- Parts that are written down one after the other are read and added up. -/
theorem reads_parts {parts : List Part} (hne : parts ≠ []) (hparts : ∀ p ∈ parts, p.Readable)
    (hcount : ∀ p ∈ parts, p.1 < 0x10000000000000000) (ha : d.addAll parts = .ok r) :
    Reads (.seeking since start) d
      (" ".intercalate (parts.map fun p => item p.1 p.2.1 p.2.2)).toList r := by
  induction parts generalizing d since start with
  | nil => exact absurd rfl hne
  | cons p parts ih =>
    have hp := hparts p (by simp)
    have hc := hcount p (by simp)
    unfold addAll at ha
    rw [List.foldlM_cons] at ha
    obtain ⟨d', hd, hr⟩ : ∃ d', d.addUnits p.1 none (String.ofList p.name) = .ok d' ∧
        d'.addAll parts = .ok r := by
      cases hd : d.addUnits p.1 none (String.ofList p.name) with
      | error e =>
        rw [hd] at ha
        cases ha
      | ok d' =>
        rw [hd] at ha
        exact ⟨d', rfl, ha⟩
    cases parts with
    | nil =>
      obtain rfl : d' = r := Except.ok.inj hr
      simp only [List.map_cons, List.map_nil, String.intercalate_singleton, Part.toList_item]
      refine .decimal hc ?_
      rw [← List.append_nil p.name]
      exact .name hp.ne_nil hp.chars (.done hd)
    | cons q parts =>
      simp only [List.map_cons, String.intercalate_cons_cons, String.toList_append,
        Part.toList_item, List.append_assoc]
      refine .decimal hc (.name hp.ne_nil hp.chars (.space hd fun since => ?_))
      exact ih (by simp) (fun x hx => hparts x (by simp [hx]))
        (fun x hx => hcount x (by simp [hx])) hr

/-! ## The counts of a span -/

theorem total_counted {f : Part → Nat} (hf : ∀ p, p.1 = 0 → f p = 0) (parts : List Part) :
    total f (parts.filter (·.1 ≠ 0)) = total f parts := by
  induction parts with
  | nil => rfl
  | cons p parts ih =>
    by_cases hp : p.1 = 0
    · simp [total, hp, hf p hp, ← ih]
    · simp [total, hp, ← ih]

theorem ofName?_counts : ["year", "month", "day", "h", "m", "s", "ms", "us", "ns"].map
    TimeUnit.ofName? = [some .year, some .month, some .day, some .hour, some .minute, some .second,
      some .millisecond, some .microsecond, some .nanosecond] := by
  decide

theorem total_seconds_counts (d : Duration) : total Part.seconds d.counts = d.seconds := by
  have hunits := ofName?_counts
  simp only [List.map_cons, List.map_nil, List.cons.injEq, and_true] at hunits
  unfold counts
  -- By `simp` the sums would be unfolded to compare them, down to the large numbers in them.
  repeat rw [total]
  simp only [Part.seconds, Part.unit, hunits, Option.getD_some, TimeUnit.length]
  omega

theorem total_nanos_counts (d : Duration) : total Part.nanos d.counts = d.nanos := by
  have hunits := ofName?_counts
  simp only [List.map_cons, List.map_nil, List.cons.injEq, and_true] at hunits
  unfold counts
  repeat rw [total]
  simp only [Part.nanos, Part.unit, hunits, Option.getD_some, TimeUnit.length]
  omega

theorem count_lt {p : Part} (hp : p ∈ d.counts) : p.1 < 0x10000000000000000 := by
  have hs := d.seconds_lt
  have hn := d.nanos_lt
  simp only [counts, List.mem_cons, List.not_mem_nil, or_false] at hp
  rcases hp with rfl | rfl | rfl | rfl | rfl | rfl | rfl | rfl | rfl
  all_goals dsimp only; omega

/-- Each span is read back from its text. -/
theorem read_text (d : Duration) : read d.text = .ok d := by
  have hs : total Part.seconds (d.counts.filter (·.1 ≠ 0)) = d.seconds := by
    rw [total_counted (fun p hp => by simp [Part.seconds, hp]), total_seconds_counts]
  have hn : total Part.nanos (d.counts.filter (·.1 ≠ 0)) = d.nanos := by
    rw [total_counted (fun p hp => by simp [Part.nanos, hp]), total_nanos_counts]
  unfold text
  split
  next he =>
    rw [he] at hs hn
    obtain ⟨seconds, nanos, hlt, hlt'⟩ := d
    obtain rfl : 0 = seconds := hs
    obtain rfl : 0 = nanos := hn
    rfl
  next parts hne =>
    have hmem : ∀ p ∈ d.counts.filter (·.1 ≠ 0), p ∈ d.counts :=
      fun p hp => (List.mem_filter.mp hp).1
    have ha : zero.addAll (d.counts.filter (·.1 ≠ 0)) = .ok d := by
      have hs0 : zero.seconds + total Part.seconds (d.counts.filter (·.1 ≠ 0)) = d.seconds := by
        rw [hs]
        exact Nat.zero_add _
      have hn0 : zero.nanos + total Part.nanos (d.counts.filter (·.1 ≠ 0)) = d.nanos := by
        rw [hn]
        exact Nat.zero_add _
      rw [addAll_eq (fun p hp => readable_of_mem_counts (hmem p hp)) (hs0 ▸ d.seconds_lt)
        (hn0 ▸ d.nanos_lt)]
      exact congrArg Except.ok (ext hs0 hn0)
    have hr : Reads (.seeking 0 true) zero
        (" ".intercalate
          ((d.counts.filter (·.1 ≠ 0)).map fun p => item p.1 p.2.1 p.2.2)).toList d :=
      reads_parts hne (fun p hp => readable_of_mem_counts (hmem p hp))
        (fun p hp => count_lt (hmem p hp)) ha
    unfold read
    split
    next h0 =>
      -- A lone zero has no unit, and is no text of a span.
      have := hr 0
      rw [h0] at this
      cases this
    next => exact hr 0

end PublishGate.Duration
