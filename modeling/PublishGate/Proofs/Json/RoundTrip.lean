import Mathlib.Data.List.DropRight
import PublishGate.Json.Reader
import PublishGate.Json.Writer

/-! # JSON read back from its written forms

The compact and the indented text of a value differ in nothing but the blanks between its tokens, and
the reader skips these. So one argument serves both: text is read as a value whatever stands behind
it, and lists of such texts are read item by item up to their end. -/

namespace PublishGate.Json

variable {c : Char} {s t gap mid tail : List Char} {v : Json} {items : List Json}
variable {k : String} {fields : List (String × Json)}

/-! ## Strings -/

theorem hexValue?_lowerHex : ∀ n < 16, Text.hexValue? (Text.lowerHex n) = some n := by
  decide

theorem stringTail_plain (hq : c ≠ '"') (hb : c ≠ '\\') (hc : 0x20 ≤ c.toNat) (read : List Nat)
    (s : List Char) : stringTail read (c :: s) = stringTail (c.toNat :: read) s := by
  rw [stringTail]
  · rw [if_neg]
    rintro (h | h)
    · omega
    · exact hb h
  · exact hq
  · intro _ _ _ _ _ h
    exact absurd h hb
  · intro _ _ h
    exact absurd h hb

theorem stringTail_letter {letter : Char} (h : shortEscape? letter = some c) (read : List Nat)
    (s : List Char) :
    stringTail read ('\\' :: letter :: s) = stringTail (c.toNat :: read) s := by
  have hu : letter ≠ 'u' := by
    rintro rfl
    simp [shortEscape?] at h
  rw [stringTail]
  · simp only [h]
  · intro _ _ _ _ _ hl
    exact absurd hl hu

theorem stringTail_code {high low : Char} {h l : Nat} (hh : Text.hexValue? high = some h)
    (hl : Text.hexValue? low = some l) (read : List Nat) (s : List Char) :
    stringTail read ('\\' :: 'u' :: '0' :: '0' :: high :: low :: s) =
      stringTail ((16 * h + l) :: read) s := by
  have h0 : Text.hexValue? '0' = some 0 := rfl
  simp [stringTail, hexNumber?, h0, hh, hl, Text.hexNumber]

/-- An escape stands for its character. -/
theorem stringTail_escape (c : Char) (read : List Nat) (s : List Char) :
    stringTail read (escape c ++ s) = stringTail (c.toNat :: read) s := by
  unfold escape
  split
  next h =>
    subst h
    exact stringTail_letter rfl read s
  split
  next h =>
    subst h
    exact stringTail_letter rfl read s
  split
  next h =>
    subst h
    exact stringTail_letter rfl read s
  split
  next h =>
    subst h
    exact stringTail_letter rfl read s
  split
  next h =>
    subst h
    exact stringTail_letter rfl read s
  split
  next h =>
    obtain rfl : c = '\x08' := Char.toNat_inj.mp h
    exact stringTail_letter rfl read s
  split
  next h =>
    obtain rfl : c = '\x0C' := Char.toNat_inj.mp h
    exact stringTail_letter rfl read s
  split
  next =>
    have hcode : 16 * (c.toNat / 16) + c.toNat % 16 = c.toNat := by omega
    have hread := stringTail_code (hexValue?_lowerHex (c.toNat / 16) (by omega))
      (hexValue?_lowerHex (c.toNat % 16) (by omega)) read s
    rwa [hcode] at hread
  next hq hb _ _ _ _ _ hc => exact stringTail_plain hq hb (Nat.not_lt.mp hc) read s

theorem stringTail_flatMap (s : List Char) (read : List Nat) (rest : List Char) :
    stringTail read (s.flatMap escape ++ '"' :: rest) =
      some (read.reverse ++ s.map Char.toNat, rest) := by
  induction s generalizing read with
  | nil => simp [stringTail]
  | cons c s ih =>
    rw [List.flatMap_cons, List.append_assoc, stringTail_escape, ih]
    simp

/-- No character is half of a surrogate pair. -/
theorem not_surrogate (c : Char) :
    isHighSurrogate c.toNat = false ∧ isLowSurrogate c.toNat = false := by
  have hvalid : c.toNat < 0xD800 ∨ 0xDFFF < c.toNat ∧ c.toNat < 0x110000 := c.valid
  simp only [isHighSurrogate, isLowSurrogate, Bool.and_eq_false_iff, decide_eq_false_iff_not]
  omega

theorem scalars?_map_toNat (s : List Char) : scalars? (s.map Char.toNat) = some s := by
  induction s with
  | nil => rfl
  | cons c s ih =>
    obtain ⟨hhigh, hlow⟩ := not_surrogate c
    cases s with
    | nil => simp [scalars?, hhigh, hlow, Char.ofNat_toNat]
    | cons d s =>
      rw [List.map_cons] at ih
      simp [scalars?, hhigh, hlow, Char.ofNat_toNat, ih]

/-- A string is read up to its closing quote, of any characters. -/
theorem string?_flatMap (s : String) (rest : List Char) :
    string? (s.toList.flatMap escape ++ '"' :: rest) = some (some s, rest) := by
  have hunits := stringTail_flatMap s.toList [] rest
  rw [List.reverse_nil, List.nil_append] at hunits
  simp only [string?, hunits, Option.map_some, scalars?_map_toNat, String.ofList_toList]

/-! ## Blanks -/

def Gap (g : List Char) : Prop :=
  ∀ c ∈ g, isGap c = true

theorem gap_nil : Gap [] := by simp [Gap]

theorem gap_newLine (depth : Nat) : Gap (newLine depth) := by
  intro c hc
  rcases List.mem_cons.mp hc with rfl | hc
  · rfl
  · obtain rfl := List.eq_of_mem_replicate hc
    rfl

theorem skipGap_append (h : Gap gap) (s : List Char) : skipGap (gap ++ s) = skipGap s :=
  List.dropWhile_append_of_pos h

theorem skipGap_cons (h : isGap c = false) (s : List Char) : skipGap (c :: s) = c :: s :=
  List.dropWhile_cons_of_neg (by simp [h])

theorem skipGap_skipGap (s : List Char) : skipGap (skipGap s) = skipGap s :=
  List.dropWhile_idempotent isGap s

theorem value?_append (h : Gap gap) (n : Nat) (s : List Char) :
    value? n (gap ++ s) = value? n s := by
  cases n with
  | zero => rfl
  | succ n => rw [value?, value?, skipGap_append h]

theorem items?_skipGap (n : Nat) (read : List Json) (s : List Char) :
    items? n read (skipGap s) = items? n read s := by
  cases n with
  | zero => rfl
  | succ n =>
    cases n with
    | zero => rfl
    | succ n => rw [items?, items?, value?, value?, skipGap_skipGap]

theorem fields?_skipGap (n : Nat) (read : List (Option String × Json)) (s : List Char) :
    fields? n read (skipGap s) = fields? n read s := by
  cases n with
  | zero => rfl
  | succ n => rw [fields?, fields?, skipGap_skipGap]

/-! ## Texts that are read as values -/

/-- The text is read as the value, whatever stands behind it, in as many steps as it is long. -/
def Reads (s : List Char) (v : Json) : Prop :=
  ∀ n rest, s.length ≤ n → value? n (s ++ rest) = some (v, rest)

def ReadsItems (s : List Char) (items : List Json) : Prop :=
  ∀ n read rest, s.length ≤ n →
    items? n read (s ++ rest) = some (.array (read.reverse ++ items), rest)

def ReadsFields (s : List Char) (fields : List (String × Json)) : Prop :=
  ∀ n read rest, s.length ≤ n →
    fields? n read (s ++ rest) =
      some (ofFields (read.reverse ++ fields.map fun f => (some f.1, f.2)), rest)

theorem Reads.of_succ (hs : s ≠ []) (h : ∀ n rest, value? (n + 1) (s ++ rest) = some (v, rest)) :
    Reads s v := by
  intro n rest hn
  have hpos := List.length_pos_iff.mpr hs
  obtain ⟨n, rfl⟩ := Nat.exists_eq_succ_of_ne_zero (n := n) (by omega)
  exact h n rest

theorem reads_null : Reads ['n', 'u', 'l', 'l'] .null :=
  .of_succ (by simp) fun _ _ => rfl

theorem reads_true : Reads ['t', 'r', 'u', 'e'] (.bool true) :=
  .of_succ (by simp) fun _ _ => rfl

theorem reads_false : Reads ['f', 'a', 'l', 's', 'e'] (.bool false) :=
  .of_succ (by simp) fun _ _ => rfl

theorem reads_emptyArray : Reads ['[', ']'] (.array []) :=
  .of_succ (by simp) fun _ _ => rfl

theorem reads_emptyObject : Reads ['{', '}'] (.object []) :=
  .of_succ (by simp) fun _ _ => rfl

theorem quoted_append (k : String) (rest : List Char) :
    quoted k ++ rest = '"' :: (k.toList.flatMap escape ++ '"' :: rest) := by
  simp [quoted]

theorem reads_quoted (k : String) : Reads (quoted k) (.string k) := by
  refine .of_succ (by simp [quoted]) ?_
  intro n rest
  rw [quoted_append, value?, skipGap_cons rfl]
  simp only [string?_flatMap, Option.map_some, ofText]

/-! ## Arrays -/

theorem ReadsItems.last (hgap : Gap gap) (htail : Gap tail) (h : Reads t v) :
    ReadsItems (gap ++ (t ++ (tail ++ [']']))) [v] := by
  intro n read rest hn
  simp only [List.length_append, List.length_singleton] at hn
  obtain ⟨n, rfl⟩ := Nat.exists_eq_succ_of_ne_zero (n := n) (by omega)
  simp only [List.append_assoc, items?, value?_append hgap, h n _ (by omega),
    skipGap_append htail, List.singleton_append]
  rw [skipGap_cons rfl]
  simp

theorem ReadsItems.cons (hgap : Gap gap) (h : Reads t v) (hs : ReadsItems s items) :
    ReadsItems (gap ++ (t ++ ',' :: s)) (v :: items) := by
  intro n read rest hn
  simp only [List.length_append, List.length_cons] at hn
  obtain ⟨n, rfl⟩ := Nat.exists_eq_succ_of_ne_zero (n := n) (by omega)
  simp only [List.append_assoc, List.cons_append, items?, value?_append hgap, h n _ (by omega)]
  rw [skipGap_cons rfl]
  simpa using hs n (v :: read) rest (by omega)

/-- No item begins with the end of an array. -/
theorem items?_closing (n : Nat) (read : List Json) (s : List Char) :
    items? n read (']' :: s) = none := by
  cases n with
  | zero => rfl
  | succ n =>
    cases n with
    | zero => rfl
    | succ n => rfl

theorem value?_array {n : Nat} {found : Json × List Char} (h : items? n [] s = some found) :
    value? (n + 1) ('[' :: s) = some found := by
  rw [← items?_skipGap] at h
  rw [value?, skipGap_cons rfl]
  simp only
  split
  next hend =>
    rw [hend, items?_closing] at h
    cases h
  next => exact h

theorem ReadsItems.array (h : ReadsItems s items) : Reads ('[' :: s) (.array items) := by
  intro n rest hn
  rw [List.length_cons] at hn
  obtain ⟨n, rfl⟩ := Nat.exists_eq_succ_of_ne_zero (n := n) (by omega)
  exact value?_array (h n [] rest (by omega))

/-! ## Objects -/

theorem ofFields_map (fields : List (String × Json)) :
    ofFields (fields.map fun f => (some f.1, f.2)) = .object fields := by
  have hnames : ((fields.map fun f => (some f.1, f.2)).mapM fun f : Option String × Json =>
      f.1.map (·, f.2)) = some fields := by
    induction fields with
    | nil => rfl
    | cons f fields ih =>
      rw [List.map_cons, List.mapM_cons, ih]
      rfl
  simp only [ofFields, hnames]

def fieldText (gap mid : List Char) (k : String) (t : List Char) : List Char :=
  gap ++ (quoted k ++ ':' :: (mid ++ t))

/-- The reader goes through a field, and what stands behind its value decides how it goes on. -/
theorem fields?_fieldText {n : Nat} {read : List (Option String × Json)} {rest : List Char}
    (hgap : Gap gap) (hmid : Gap mid) (h : value? n (t ++ s) = some (v, s)) :
    (skipGap s = ',' :: rest → fields? (n + 1) read (fieldText gap mid k t ++ s) =
      fields? n ((some k, v) :: read) rest) ∧
    (skipGap s = '}' :: rest → fields? (n + 1) read (fieldText gap mid k t ++ s) =
      some (ofFields ((some k, v) :: read).reverse, rest)) := by
  have htext : fieldText gap mid k t ++ s =
      gap ++ '"' :: (k.toList.flatMap escape ++ '"' :: ':' :: (mid ++ (t ++ s))) := by
    simp [fieldText, quoted]
  rw [htext, fields?, skipGap_append hgap, skipGap_cons rfl]
  simp only [string?_flatMap]
  rw [skipGap_cons rfl]
  constructor
  · intro hs
    simp [value?_append hmid, h, hs]
  · intro hs
    simp [value?_append hmid, h, hs]

theorem ReadsFields.last (hgap : Gap gap) (hmid : Gap mid) (htail : Gap tail) (h : Reads t v) :
    ReadsFields (fieldText gap mid k t ++ (tail ++ ['}'])) [(k, v)] := by
  intro n read rest hn
  simp only [fieldText, List.length_append, List.length_cons] at hn
  obtain ⟨n, rfl⟩ := Nat.exists_eq_succ_of_ne_zero (n := n) (by omega)
  have hend : skipGap (tail ++ ['}'] ++ rest) = '}' :: rest := by
    rw [List.append_assoc, skipGap_append htail, List.singleton_append, skipGap_cons rfl]
  rw [List.append_assoc, (fields?_fieldText hgap hmid (h n _ (by omega))).2 hend]
  simp

theorem ReadsFields.cons (hgap : Gap gap) (hmid : Gap mid) (h : Reads t v)
    (hs : ReadsFields s fields) :
    ReadsFields (fieldText gap mid k t ++ ',' :: s) ((k, v) :: fields) := by
  intro n read rest hn
  simp only [fieldText, List.length_append, List.length_cons] at hn
  obtain ⟨n, rfl⟩ := Nat.exists_eq_succ_of_ne_zero (n := n) (by omega)
  have hnext : skipGap (',' :: s ++ rest) = ',' :: (s ++ rest) := skipGap_cons rfl _
  rw [List.append_assoc, (fields?_fieldText hgap hmid (h n _ (by omega))).1 hnext]
  simpa using hs n ((some k, v) :: read) rest (by omega)

/-- No field begins with the end of an object. -/
theorem fields?_closing (n : Nat) (read : List (Option String × Json)) (s : List Char) :
    fields? n read ('}' :: s) = none := by
  cases n with
  | zero => rfl
  | succ n => rfl

theorem value?_object {n : Nat} {found : Json × List Char} (h : fields? n [] s = some found) :
    value? (n + 1) ('{' :: s) = some found := by
  rw [← fields?_skipGap] at h
  rw [value?, skipGap_cons rfl]
  simp only
  split
  next hend =>
    rw [hend, fields?_closing] at h
    cases h
  next => exact h

theorem ReadsFields.object (h : ReadsFields s fields) : Reads ('{' :: s) (.object fields) := by
  intro n rest hn
  rw [List.length_cons] at hn
  obtain ⟨n, rfl⟩ := Nat.exists_eq_succ_of_ne_zero (n := n) (by omega)
  have hfields := h n [] rest (by omega)
  rw [List.reverse_nil, List.nil_append, ofFields_map] at hfields
  exact value?_object hfields

/-! ## The two writers -/

def listed {α : Type} (text : α → List Char) : List α → List Char
  | [] => []
  | [a] => text a
  | a :: b :: rest => text a ++ ',' :: listed text (b :: rest)

theorem readsItems_listed {text : Json → List Char} (hgap : Gap gap) (htail : Gap tail)
    (h : ∀ v ∈ items, Reads (text v) v) (hne : items ≠ []) :
    ReadsItems (listed (fun v => gap ++ text v) items ++ (tail ++ [']'])) items := by
  induction items with
  | nil => exact absurd rfl hne
  | cons v items ih =>
    obtain ⟨hv, hitems⟩ := List.forall_mem_cons.mp h
    cases items with
    | nil => simpa [listed] using ReadsItems.last hgap htail hv
    | cons w items => simpa [listed] using ReadsItems.cons hgap hv (ih hitems (by simp))

theorem readsFields_listed {text : Json → List Char} (hgap : Gap gap) (hmid : Gap mid)
    (htail : Gap tail) (h : ∀ f ∈ fields, Reads (text f.2) f.2) (hne : fields ≠ []) :
    ReadsFields (listed (fun f => fieldText gap mid f.1 (text f.2)) fields ++ (tail ++ ['}']))
      fields := by
  induction fields with
  | nil => exact absurd rfl hne
  | cons f fields ih =>
    obtain ⟨hf, hfields⟩ := List.forall_mem_cons.mp h
    cases fields with
    | nil => exact ReadsFields.last hgap hmid htail hf
    | cons g fields =>
      simpa [listed] using ReadsFields.cons hgap hmid hf (ih hfields (by simp))

theorem compactItems_eq (items : List Json) : compactItems items = listed compact items := by
  induction items with
  | nil => rfl
  | cons v items ih =>
    cases items with
    | nil => rfl
    | cons w items => rw [compactItems, ih, listed]

theorem compactFields_eq (fields : List (String × Json)) :
    compactFields fields = listed (fun f => fieldText [] [] f.1 f.2.compact) fields := by
  induction fields with
  | nil => rfl
  | cons f fields ih =>
    cases fields with
    | nil => rfl
    | cons g fields =>
      rw [compactFields, ih, listed, fieldText]
      simp

theorem prettyItems_eq (depth : Nat) (items : List Json) :
    prettyItems depth items = listed (fun v => newLine depth ++ v.pretty depth) items := by
  induction items with
  | nil => rfl
  | cons v items ih =>
    cases items with
    | nil => rfl
    | cons w items =>
      rw [prettyItems, ih, listed]
      simp

theorem prettyFields_eq (depth : Nat) (fields : List (String × Json)) :
    prettyFields depth fields =
      listed (fun f => fieldText (newLine depth) [' '] f.1 (f.2.pretty depth)) fields := by
  induction fields with
  | nil => rfl
  | cons f fields ih =>
    cases fields with
    | nil => rfl
    | cons g fields =>
      rw [prettyFields, ih, listed, fieldText]
      simp

/-- The value is made of texts and truth values: it has no numbers and no broken strings. -/
inductive Plain : Json → Prop
  | null : Plain .null
  | bool (b : Bool) : Plain (.bool b)
  | string (s : String) : Plain (.string s)
  | array {items : List Json} : (∀ v ∈ items, Plain v) → Plain (.array items)
  | object {fields : List (String × Json)} : (∀ f ∈ fields, Plain f.2) → Plain (.object fields)

theorem Plain.reads_compact (h : v.Plain) : Reads v.compact v := by
  induction h with
  | null => exact reads_null
  | bool b =>
    cases b with
    | true => exact reads_true
    | false => exact reads_false
  | string s => exact reads_quoted s
  | @array items _ ih =>
    cases items with
    | nil => exact reads_emptyArray
    | cons v items =>
      have hitems := readsItems_listed gap_nil gap_nil ih (by simp)
      rw [compact, compactItems_eq]
      exact hitems.array
  | @object fields _ ih =>
    cases fields with
    | nil => exact reads_emptyObject
    | cons f fields =>
      have hfields := readsFields_listed gap_nil gap_nil gap_nil ih (by simp)
      rw [compact, compactFields_eq]
      exact hfields.object

theorem Plain.reads_pretty (h : v.Plain) (depth : Nat) : Reads (v.pretty depth) v := by
  induction h generalizing depth with
  | null => exact reads_null
  | bool b =>
    cases b with
    | true => exact reads_true
    | false => exact reads_false
  | string s => exact reads_quoted s
  | @array items _ ih =>
    cases items with
    | nil => exact reads_emptyArray
    | cons v items =>
      have hitems := readsItems_listed (gap_newLine (depth + 1)) (gap_newLine depth)
        (fun v hv => ih v hv (depth + 1)) (by simp)
      rw [pretty, prettyItems_eq]
      · exact hitems.array
      · simp
  | @object fields _ ih =>
    cases fields with
    | nil => exact reads_emptyObject
    | cons f fields =>
      have hblank : Gap [' '] := by simp [Gap, isGap]
      have hfields := readsFields_listed (gap_newLine (depth + 1)) hblank (gap_newLine depth)
        (fun f hf => ih f hf (depth + 1)) (by simp)
      rw [pretty, prettyFields_eq]
      · exact hfields.object
      · simp

theorem Reads.parse? (h : Reads s v) : parse? (String.ofList s) = some v := by
  have hread := h (2 * s.length + 2) [] (by omega)
  rw [List.append_nil] at hread
  simp only [Json.parse?, String.toList_ofList, hread]
  rfl

theorem Plain.parse?_compactText (h : v.Plain) : Json.parse? v.compactText = some v :=
  h.reads_compact.parse?

theorem Plain.parse?_prettyText (h : v.Plain) : Json.parse? v.prettyText = some v :=
  (h.reads_pretty 0).parse?

end PublishGate.Json
