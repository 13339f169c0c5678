import Mathlib.Data.List.DropRight
import Mathlib.Tactic.SplitIfs
import PublishGate.Text.Utf8

/-! # Lines of bytes

A file of lines may hold anything, and its last line may lack the line feed. What is put behind such
a line continues it; behind a line feed it stands for itself. -/

namespace PublishGate.Text

variable {a b line old : List UInt8} {out : List (List UInt8)}

def lineFeed : UInt8 := 10

/-- The lines of a file. The last one may be without a line feed. -/
def lines : List UInt8 → List (List UInt8)
  | [] => []
  | byte :: bytes =>
    if byte = lineFeed then [] :: lines bytes
    else match lines bytes with
      | [] => [[byte]]
      | line :: rest => (byte :: line) :: rest

def closed (out : List (List UInt8)) : List UInt8 :=
  out.flatMap (· ++ [lineFeed])

/-- There is no unfinished line at the end. -/
def EndsClosed (bytes : List UInt8) : Prop :=
  bytes = [] ∨ bytes.getLast? = some lineFeed

instance (bytes : List UInt8) : Decidable (EndsClosed bytes) :=
  inferInstanceAs (Decidable (_ ∨ _))

theorem lines_cons_of_ne {byte : UInt8} (hb : byte ≠ lineFeed) {first : List UInt8}
    {rest : List (List UInt8)} (h : lines a = first :: rest) :
    lines (byte :: a) = (byte :: first) :: rest := by
  rw [lines, if_neg hb, h]

/-- A line that has its line feed comes apart from what follows. -/
theorem lines_line (h : lineFeed ∉ line) (b : List UInt8) :
    lines (line ++ lineFeed :: b) = line :: lines b := by
  induction line with
  | nil => simp [lines]
  | cons byte line ih =>
    obtain ⟨hb, hline⟩ := not_or.mp (mt List.mem_cons.mpr h)
    exact lines_cons_of_ne (Ne.symm hb) (ih hline)

theorem lines_unfinished (h : lineFeed ∉ line) (hne : line ≠ []) : lines line = [line] := by
  induction line with
  | nil => exact absurd rfl hne
  | cons byte line ih =>
    obtain ⟨hb, hline⟩ := not_or.mp (mt List.mem_cons.mpr h)
    by_cases hnil : line = []
    · rw [hnil, lines, if_neg (Ne.symm hb)]
      rfl
    · exact lines_cons_of_ne (Ne.symm hb) (ih hline hnil)

theorem lines_append_lineFeed (a b : List UInt8) :
    lines (a ++ lineFeed :: b) = lines (a ++ [lineFeed]) ++ lines b := by
  induction a with
  | nil => simp [lines]
  | cons byte a ih =>
    by_cases hb : byte = lineFeed
    · rw [List.cons_append, List.cons_append, lines, if_pos hb, ih, lines, if_pos hb,
        List.cons_append]
    · cases hfirst : lines (a ++ [lineFeed]) with
      | nil =>
        cases a with
        | nil => cases hfirst
        | cons c a =>
          rw [List.cons_append, lines] at hfirst
          split_ifs at hfirst
          split at hfirst <;> cases hfirst
      | cons first rest =>
        rw [hfirst, List.cons_append] at ih
        rw [List.cons_append, List.cons_append, lines_cons_of_ne hb ih, lines_cons_of_ne hb hfirst,
          List.cons_append]

theorem lines_append_of_endsClosed (h : EndsClosed a) (b : List UInt8) :
    lines (a ++ b) = lines a ++ lines b := by
  rcases h with rfl | h
  · rfl
  · obtain ⟨front, rfl⟩ := List.getLast?_eq_some_iff.mp h
    rw [List.append_assoc, List.singleton_append, lines_append_lineFeed]

theorem lines_closed (h : ∀ line ∈ out, lineFeed ∉ line) : lines (closed out) = out := by
  induction out with
  | nil => rfl
  | cons line out ih =>
    obtain ⟨hline, hout⟩ := List.forall_mem_cons.mp h
    have hclosed : closed (line :: out) = line ++ lineFeed :: closed out := by simp [closed]
    rw [hclosed, lines_line hline, ih hout]

/-- What does not end in a line feed ends in an unfinished line. -/
theorem exists_unfinished (h : ¬ EndsClosed old) :
    ∃ front tail, old = front ++ tail ∧ EndsClosed front ∧ tail ≠ [] ∧ lineFeed ∉ tail := by
  obtain ⟨hne, hlast⟩ := not_or.mp h
  let inside : UInt8 → Bool := (· != lineFeed)
  have hsplit : old.rdropWhile inside ++ old.rtakeWhile inside = old :=
    List.rdropWhile_append_rtakeWhile
  refine ⟨old.rdropWhile inside, old.rtakeWhile inside, hsplit.symm, ?_, ?_, ?_⟩
  · by_cases hfront : old.rdropWhile inside = []
    · exact .inl hfront
    · have hstop := List.rdropWhile_last_not inside old hfront
      refine .inr ?_
      rw [List.getLast?_eq_some_getLast hfront]
      simpa [inside] using hstop
  · intro htail
    have hstop := List.rtakeWhile_eq_nil_iff.mp htail hne
    rw [List.getLast?_eq_some_getLast hne] at hlast
    exact hlast (congrArg some (by simpa [inside] using hstop))
  · intro hmem
    have := List.mem_rtakeWhile_imp hmem
    simp [inside] at this

/-- Lines that are put behind a file are its last ones, if it ends in a line feed. Else the first of
them becomes the rest of the unfinished line. -/
theorem lines_append_closed (h : ∀ line ∈ out, lineFeed ∉ line) (old : List UInt8) :
    (EndsClosed old → lines (old ++ closed out) = lines old ++ out) ∧
      (¬ EndsClosed old → ∃ front tail, lines old = front ++ [tail] ∧
        ∀ first rest, out = first :: rest →
          lines (old ++ closed out) = front ++ (tail ++ first) :: rest) := by
  constructor
  · intro hold
    rw [lines_append_of_endsClosed hold, lines_closed h]
  · intro hold
    obtain ⟨front, tail, rfl, hfront, hne, htail⟩ := exists_unfinished hold
    refine ⟨lines front, tail, ?_, ?_⟩
    · rw [lines_append_of_endsClosed hfront, lines_unfinished htail hne]
    · rintro first rest rfl
      obtain ⟨hfirst, hrest⟩ := List.forall_mem_cons.mp h
      have hclosed : closed (first :: rest) = first ++ lineFeed :: closed rest := by simp [closed]
      have hline : lineFeed ∉ tail ++ first := by simp [htail, hfirst]
      rw [List.append_assoc, lines_append_of_endsClosed hfront, hclosed, ← List.append_assoc,
        lines_line hline, lines_closed hrest]

theorem endsClosed_append_closed (h : out ≠ []) (old : List UInt8) :
    EndsClosed (old ++ closed out) := by
  rcases List.eq_nil_or_concat' out with rfl | ⟨front, line, rfl⟩
  · exact absurd rfl h
  · refine .inr ?_
    simp [closed]

/-! ## Lines of text -/

theorem encode_append (s t : String) : encode (s ++ t) = encode s ++ encode t := by
  simp [encode]

theorem encode_closed (out : List String) :
    encode (String.join (out.map (· ++ "\n"))) = closed (out.map encode) := by
  induction out with
  | nil => rfl
  | cons line out ih =>
    have hfeed : encode "\n" = [lineFeed] := by decide
    rw [List.map_cons, String.join_cons, encode_append, encode_append, ih, hfeed, List.map_cons,
      closed, closed, List.flatMap_cons]

theorem lineFeed_eq_ofNat_iff {n : Nat} (hn : n < 256) : lineFeed = UInt8.ofNat n ↔ n = 10 := by
  rw [← UInt8.toNat_inj, UInt8.toNat_ofNat_of_lt' hn]
  exact eq_comm

/-- The bytes of a longer character are all above ASCII. -/
theorem eq_of_lineFeed_mem_utf8EncodeChar {c : Char} (h : lineFeed ∈ String.utf8EncodeChar c) :
    c = '\n' := by
  have hc : c.val.toNat < 0x110000 := by
    have := c.valid
    simp only [UInt32.isValidChar, Nat.isValidChar] at this
    omega
  have hten : c.val.toNat = 10 := by
    unfold String.utf8EncodeChar at h
    generalize c.val.toNat = n at h hc
    dsimp only at h
    split_ifs at h <;>
      simp (disch := omega) only [List.mem_cons, List.not_mem_nil, or_false,
        lineFeed_eq_ofNat_iff] at h <;> omega
  exact Char.toNat_inj.mp hten

theorem lineFeed_not_mem_encode {s : String} (h : '\n' ∉ s.toList) : lineFeed ∉ encode s := by
  intro hmem
  obtain ⟨c, hc, hbyte⟩ := List.mem_flatMap.mp hmem
  exact h (eq_of_lineFeed_mem_utf8EncodeChar hbyte ▸ hc)

end PublishGate.Text
