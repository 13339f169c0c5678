import PublishGate.Proofs.Toml.Quoted
import PublishGate.Toml.Reader

/-! # Statements of TOML with plain names and string values -/

namespace PublishGate.Toml

variable {name key : String} {fields : Fields} {s rest : List Char}

def Bare (name : String) : Prop :=
  name.toList ≠ [] ∧ name.toList.all isBare = true

instance (name : String) : Decidable (Bare name) :=
  inferInstanceAs (Decidable (_ ∧ _))

/-! ## Reading keys and values -/

theorem isSpace_of_isBare {c : Char} (h : isBare c = true) : isSpace c = false := by
  cases hs : isSpace c with
  | false => rfl
  | true =>
    simp only [isSpace, Bool.or_eq_true, beq_iff_eq] at hs
    rcases hs with rfl | rfl
    · exact absurd h (by decide)
    · exact absurd h (by decide)

theorem Bare.isBare_of_mem (h : Bare name) : ∀ c ∈ name.toList, isBare c = true :=
  List.all_eq_true.mp h.2

theorem Bare.exists_cons (h : Bare name) : ∃ c t, name.toList = c :: t ∧ isBare c = true := by
  cases ht : name.toList with
  | nil => exact absurd ht h.1
  | cons c t => exact ⟨c, t, rfl, h.isBare_of_mem c (by simp [ht])⟩

theorem Bare.skipSpace_append (h : Bare name) (rest : List Char) :
    skipSpace (name.toList ++ rest) = name.toList ++ rest := by
  obtain ⟨c, t, ht, hc⟩ := h.exists_cons
  simp [skipSpace, ht, isSpace_of_isBare hc]

theorem keyPart?_bare (h : Bare name) {c : Char} (hc : isBare c = false) (rest : List Char) :
    keyPart? (name.toList ++ c :: rest) = some (name, c :: rest) := by
  have htake : (name.toList ++ c :: rest).takeWhile isBare = name.toList := by
    rw [List.takeWhile_append_of_pos h.isBare_of_mem, List.takeWhile_cons_of_neg (by simp [hc]),
      List.append_nil]
  have hdrop : (name.toList ++ c :: rest).dropWhile isBare = c :: rest := by
    rw [List.dropWhile_append_of_pos h.isBare_of_mem, List.dropWhile_cons_of_neg (by simp [hc])]
  unfold keyPart?
  rw [htake]
  split
  next hnil => exact absurd hnil h.1
  next => rw [hdrop, String.ofList_toList]

/-- A plain name ends where a blank, a bracket or an equals sign stands. -/
theorem key?_bare (h : Bare name) {c d : Char} (hc : isBare c = false)
    (hrest : skipSpace (c :: rest) = d :: s) (hdot : d ≠ '.') (n : Nat) :
    key? (n + 1) (name.toList ++ c :: rest) = some ([name], d :: s) := by
  unfold key?
  rw [h.skipSpace_append, keyPart?_bare h hc]
  simp only [hrest]
  split
  next he => exact absurd (List.cons.inj he).1 hdot
  next => rfl

theorem exists_quote_write (text : String) :
    ∃ q t, Quoted.write text = q :: t ∧ (q = '"' ∨ q = '\'') := by
  unfold Quoted.write
  cases Quoted.style text.toList with
  | basic => exact ⟨'"', _, rfl, .inl rfl⟩
  | literal => exact ⟨'\'', _, rfl, .inr rfl⟩
  | basicLines => exact ⟨'"', _, rfl, .inl rfl⟩
  | literalLines => exact ⟨'\'', _, rfl, .inr rfl⟩

theorem value?_write (depth : Nat) (text : String) (rest : List Char) :
    value? depth (Quoted.write text ++ '\n' :: rest) = some (.string text, '\n' :: rest) := by
  obtain ⟨q, t, hw, hq⟩ := exists_quote_write text
  have hread := Quoted.read?_write text rest
  rw [hw, List.cons_append] at hread ⊢
  unfold value?
  rcases hq with rfl | rfl
  all_goals
    split
    next he => exact absurd (List.cons.inj he).1 (by decide)
    next he => exact absurd (List.cons.inj he).1 (by decide)
    next => rw [hread]

theorem skipSpace_write (text : String) (rest : List Char) :
    skipSpace (' ' :: (Quoted.write text ++ rest)) = Quoted.write text ++ rest := by
  obtain ⟨q, t, hw, hq⟩ := exists_quote_write text
  have hs : isSpace q = false := by rcases hq with rfl | rfl <;> rfl
  have hb : isSpace ' ' = true := rfl
  simp [skipSpace, hw, hs, hb]

/-! ## Reading statements -/

def pairText (key value : String) : List Char :=
  key.toList ++ [' ', '=', ' '] ++ Quoted.write value ++ ['\n']

def headerText (name : String) : List Char :=
  '[' :: (name.toList ++ [']', '\n'])

theorem Bare.head_ne_bracket (h : Bare name) (rest t : List Char) :
    name.toList ++ rest ≠ '[' :: t := by
  obtain ⟨c, u, hu, hc⟩ := h.exists_cons
  intro he
  rw [hu, List.cons_append] at he
  rw [(List.cons.inj he).1] at hc
  exact absurd hc (by decide)

theorem statement?_pairText (h : Bare key) (value : String) (rest : List Char) :
    statement? (pairText key value ++ rest) = some (.pair [key] (.string value), '\n' :: rest) := by
  have hs : pairText key value ++ rest =
      key.toList ++ ' ' :: '=' :: ' ' :: (Quoted.write value ++ '\n' :: rest) := by
    simp [pairText]
  have hkey (n : Nat) : key? (n + 1) (key.toList ++ ' ' :: '=' :: ' ' :: (Quoted.write value ++
      '\n' :: rest)) = some ([key], '=' :: ' ' :: (Quoted.write value ++ '\n' :: rest)) :=
    key?_bare h rfl rfl (by decide) n
  rw [hs]
  unfold statement?
  split
  next he => exact absurd he (h.head_ne_bracket _ _)
  next he => exact absurd he (h.head_ne_bracket _ _)
  next => simp [pair?, hkey, skipSpace_write, value?_write]

theorem statement?_headerText (h : Bare name) (rest : List Char) :
    statement? (headerText name ++ rest) = some (.table [name], '\n' :: rest) := by
  have hs : headerText name ++ rest = '[' :: (name.toList ++ ']' :: '\n' :: rest) := by
    simp [headerText]
  have hkey (n : Nat) : key? (n + 1) (name.toList ++ ']' :: '\n' :: rest) =
      some ([name], ']' :: '\n' :: rest) :=
    key?_bare h rfl rfl (by decide) n
  rw [hs]
  unfold statement?
  split
  next he => exact absurd (List.cons.inj he).2 (h.head_ne_bracket _ _)
  next he =>
    obtain rfl := (List.cons.inj he).2
    simp [hkey]
  next hne => exact (hne _ rfl).elim

/-- A text that begins with a plain name or a header has nothing to skip. -/
theorem skipGap_eq_self {c : Char} (hc : isBare c = true ∨ c = '[') (s : List Char) :
    skipGap false (c :: s) = some (c :: s) := by
  have h : c ≠ '\n' ∧ c ≠ '\r' ∧ c ≠ '#' ∧ isSpace c = false := by
    rcases hc with hc | rfl
    · refine ⟨?_, ?_, ?_, isSpace_of_isBare hc⟩
      all_goals rintro rfl; exact absurd hc (by decide)
    · decide
  have hb : Quoted.atLineBreak (c :: s) = false := by
    unfold Quoted.atLineBreak
    split
    next he => exact absurd (List.cons.inj he).1 h.1
    next he => exact absurd (List.cons.inj he).1 h.2.1
    next => rfl
  simp [skipGap, hb, h]

/-- One statement is read, and the rest of the text after it. -/
theorem statements?_cons {c : Char} {t : List Char} {first : Statement}
    (hc : isBare c = true ∨ c = '[') (hfirst : statement? (c :: t) = some (first, '\n' :: rest))
    (n : Nat) : statements? (n + 1) (c :: t) = (statements? n rest).map (first :: ·) := by
  have hend : lineEnd? ('\n' :: rest) = some rest := rfl
  rw [statements?, skipGap_eq_self hc]
  simp [hfirst, hend]

theorem statements?_pairText (h : Bare key) (value : String) (rest : List Char) (n : Nat) :
    statements? (n + 1) (pairText key value ++ rest) =
      (statements? n rest).map (.pair [key] (.string value) :: ·) := by
  have hfirst := statement?_pairText h value rest
  obtain ⟨c, t, ht, hc⟩ := h.exists_cons
  rw [pairText, ht] at hfirst ⊢
  exact statements?_cons (.inl hc) hfirst n

theorem statements?_headerText (h : Bare name) (rest : List Char) (n : Nat) :
    statements? (n + 1) (headerText name ++ rest) =
      (statements? n rest).map (.table [name] :: ·) :=
  statements?_cons (.inr rfl) (statement?_headerText h rest) n

theorem statements?_emptyLine (n : Nat) (rest : List Char) :
    statements? n ('\n' :: rest) = statements? n rest := by
  cases n with
  | zero => rfl
  | succ n => rfl

/-! ## Taking statements -/

theorem alter?_new (h : name ∉ fields.map Prod.fst) (change : Option Value → Option Value) :
    fields.alter? name change = (change none).map fun v => fields ++ [(name, v)] := by
  induction fields with
  | nil => rfl
  | cons field fields ih =>
    obtain ⟨k, v⟩ := field
    simp only [List.map_cons, List.mem_cons, not_or] at h
    rw [Fields.alter?, if_neg (Ne.symm h.1), ih h.2]
    cases change none <;> rfl

theorem alter?_last (h : name ∉ fields.map Prod.fst) (change : Option Value → Option Value)
    (v : Value) : Fields.alter? name change (fields ++ [(name, v)]) =
      (change (some v)).map fun w => fields ++ [(name, w)] := by
  induction fields with
  | nil => simp [Fields.alter?]
  | cons field fields ih =>
    obtain ⟨k, u⟩ := field
    simp only [List.map_cons, List.mem_cons, not_or] at h
    rw [List.cons_append, Fields.alter?, if_neg (Ne.symm h.1), ih h.2]
    cases change (some v) <;> rfl

theorem add?_table (h : name ∉ fields.map Prod.fst) (path : List String) :
    Draft.add? ⟨fields, path⟩ (.table [name]) =
      some ⟨fields ++ [(name, .table .header [])], [name]⟩ := by
  simp [Draft.add?, Fields.along?, Fields.openTable?, alter?_new h]

theorem add?_pair (h : name ∉ fields.map Prod.fst) {table : Fields}
    (hkey : key ∉ table.map Prod.fst) (v : Value) : Draft.add? ⟨fields ++ [(name, .table .header table)], [name]⟩ (.pair [key] v) =
      some ⟨fields ++ [(name, .table .header (table ++ [(key, v)]))], [name]⟩ := by
  simp [Draft.add?, Fields.along?, Fields.define?, alter?_last h, alter?_new hkey]

end PublishGate.Toml
