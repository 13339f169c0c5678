import Mathlib.Algebra.Group.Nat.Defs
import PublishGate.Text.Decimal

/-! # Decimal text and its value -/

namespace PublishGate.Text

theorem digitsValue_decimal (n : Nat) : digitsValue (decimal n) = n :=
  Nat.ofDigitChars_ten_toDigits

theorem decimal_inj {m n : Nat} (h : decimal m = decimal n) : m = n := by
  rw [← digitsValue_decimal m, h, digitsValue_decimal]

theorem decimal_ne_nil (n : Nat) : decimal n ≠ [] := Nat.toDigits_ne_nil

theorem isDigit_of_mem_decimal {n : Nat} {c : Char} (hc : c ∈ decimal n) : c.isDigit = true :=
  Nat.isDigit_of_mem_toDigits (by decide) (by decide) hc

theorem toNat_of_isDigit {c : Char} (hc : c.isDigit = true) : 48 ≤ c.toNat ∧ c.toNat ≤ 57 :=
  Char.isDigit_iff_toNat.mp hc

theorem digitValue_lt_iff {c d : Char} (hc : c.isDigit = true) (hd : d.isDigit = true) :
    digitValue c < digitValue d ↔ c < d := by
  have hc := toNat_of_isDigit hc
  have hd := toNat_of_isDigit hd
  have hzero : '0'.toNat = 48 := rfl
  have hlt : c < d ↔ c.toNat < d.toNat := Iff.rfl
  rw [hlt, digitValue, digitValue]
  omega

theorem digitValue_inj {c d : Char} (hc : c.isDigit = true) (hd : d.isDigit = true) :
    digitValue c = digitValue d ↔ c = d := by
  have hc := toNat_of_isDigit hc
  have hd := toNat_of_isDigit hd
  have hzero : '0'.toNat = 48 := rfl
  rw [← Char.toNat_inj, digitValue, digitValue]
  omega

theorem digitValue_eq_zero_iff {c : Char} (hc : c.isDigit = true) :
    digitValue c = 0 ↔ c = '0' :=
  digitValue_inj (d := '0') hc rfl

/-- Digits read after a number shift it to the left. -/
theorem foldl_digits (n : Nat) (ds : List Char) :
    ds.foldl (fun n c => 10 * n + digitValue c) n = n * 10 ^ ds.length + digitsValue ds := by
  unfold digitsValue
  induction ds generalizing n with
  | nil => simp
  | cons c ds ih =>
    rw [List.foldl_cons, List.foldl_cons, ih, ih (10 * 0 + digitValue c), List.length_cons,
      Nat.pow_succ', ← Nat.add_assoc, Nat.mul_zero, Nat.zero_add, Nat.add_mul, Nat.mul_comm 10 n,
      Nat.mul_assoc]

/-- Reading on from a number makes it no smaller. -/
theorem le_foldl_digits (n : Nat) (ds : List Char) :
    n ≤ ds.foldl (fun n c => 10 * n + digitValue c) n := by
  have hpow : 0 < 10 ^ ds.length := Nat.pow_pos (by decide)
  rw [foldl_digits]
  exact Nat.le_add_right_of_le (Nat.le_mul_of_pos_right n hpow)

theorem digitsValue_cons (c : Char) (ds : List Char) :
    digitsValue (c :: ds) = digitValue c * 10 ^ ds.length + digitsValue ds := by
  rw [digitsValue, List.foldl_cons, foldl_digits, Nat.mul_zero, Nat.zero_add]

theorem digitsValue_eq_zero_iff {ds : List Char} (h : ∀ c ∈ ds, c.isDigit = true) :
    digitsValue ds = 0 ↔ ∀ c ∈ ds, c = '0' := by
  induction ds with
  | nil => simp [digitsValue]
  | cons c ds ih =>
    rw [List.forall_mem_cons] at h
    have hpow : 10 ^ ds.length ≠ 0 := Nat.ne_of_gt (Nat.pow_pos (by decide))
    rw [digitsValue_cons, Nat.add_eq_zero_iff, Nat.mul_eq_zero, or_iff_left hpow, ih h.2,
      digitValue_eq_zero_iff h.1, List.forall_mem_cons]

def DigitRun (s : List Char) : Prop :=
  s ≠ [] ∧ ∀ c ∈ s, c.isDigit = true

theorem digitRun_decimal (n : Nat) : DigitRun (decimal n) :=
  ⟨decimal_ne_nil n, fun _ => isDigit_of_mem_decimal⟩

theorem isNatural_iff {s : List Char} : isNatural s = true ↔ DigitRun s := by
  simp [isNatural, DigitRun]

theorem DigitRun.not_plus {ds : List Char} (h : DigitRun ('+' :: ds)) : False := by
  have := h.2 '+' (by simp)
  simp [Char.isDigit] at this

/-- A word is a run of digits, perhaps behind a plus sign. -/
theorem word?_eq_some_iff {s : List Char} {n : Nat} :
    word? s = some n ↔
      ∃ ds, (s = ds ∨ s = '+' :: ds) ∧ DigitRun ds ∧ digitsValue ds = n ∧ n < wordBound := by
  have hrun : ∀ ds, (if isNatural ds && decide (digitsValue ds < wordBound) then
      some (digitsValue ds) else none) = some n ↔
        DigitRun ds ∧ digitsValue ds = n ∧ n < wordBound := by
    intro ds
    simp only [Option.ite_none_right_eq_some, Bool.and_eq_true, isNatural_iff,
      decide_eq_true_eq, Option.some.injEq]
    constructor
    · rintro ⟨⟨hd, hb⟩, rfl⟩
      exact ⟨hd, rfl, hb⟩
    · rintro ⟨hd, rfl, hb⟩
      exact ⟨⟨hd, hb⟩, rfl⟩
  unfold word?
  split
  next ds =>
    rw [hrun]
    constructor
    · intro h
      exact ⟨ds, .inr rfl, h⟩
    · rintro ⟨ds', rfl | he, h⟩
      · exact h.1.not_plus.elim
      · obtain rfl : ds = ds' := by simpa using he
        exact h
  next hplus =>
    rw [hrun]
    constructor
    · intro h
      exact ⟨s, .inl rfl, h⟩
    · rintro ⟨ds, rfl | he, h⟩
      · exact h
      · exact absurd he (hplus ds)

/-! ## The order of decimal texts -/

variable {ds es x y : List Char} {m n : Nat}

theorem digitsValue_lt (h : ∀ c ∈ ds, c.isDigit = true) : digitsValue ds < 10 ^ ds.length := by
  induction ds with
  | nil => simp [digitsValue]
  | cons c ds ih =>
    have hc : digitValue c ≤ 9 := Nat.sub_le_of_le_add (toNat_of_isDigit (h c (by simp))).2
    have hds := ih fun d hd => h d (by simp [hd])
    have hmul := Nat.mul_le_mul_right (10 ^ ds.length) hc
    rw [digitsValue_cons, List.length_cons, Nat.pow_succ']
    omega

/-- Of two runs of digits of one length the smaller one has the smaller value. -/
theorem digits_lt_iff (hl : ds.length = es.length) (hd : ∀ c ∈ ds, c.isDigit = true)
    (he : ∀ c ∈ es, c.isDigit = true) : ds < es ↔ digitsValue ds < digitsValue es := by
  induction ds generalizing es with
  | nil =>
    obtain rfl : es = [] := List.length_eq_zero_iff.mp hl.symm
    simp
  | cons c ds ih =>
    cases es with
    | nil => simp at hl
    | cons e es =>
      have hl : ds.length = es.length := by simpa using hl
      rw [List.forall_mem_cons] at hd he
      have hds := digitsValue_lt hd.2
      have hes := digitsValue_lt he.2
      rw [List.cons_lt_cons_iff, ih hl hd.2 he.2, digitsValue_cons, digitsValue_cons, hl]
      rw [hl] at hds
      -- one unit of the leading digit is more than all digits behind it
      rcases Nat.lt_trichotomy (digitValue c) (digitValue e) with hlt | heq | hgt
      · have hmul := Nat.mul_le_mul_right (10 ^ es.length) hlt
        rw [Nat.succ_mul] at hmul
        exact iff_of_true (.inl ((digitValue_lt_iff hd.1 he.1).mp hlt)) (by omega)
      · obtain rfl := (digitValue_inj hd.1 he.1).mp heq
        simp
      · have hmul := Nat.mul_le_mul_right (10 ^ es.length) hgt
        rw [Nat.succ_mul] at hmul
        have hc : e < c := (digitValue_lt_iff he.1 hd.1).mp hgt
        have hne : c ≠ e := fun h => Char.lt_irrefl e (h ▸ hc)
        exact iff_of_false (not_or.mpr ⟨Char.lt_asymm hc, fun h => hne h.1⟩) (by omega)

/-- Numbers with equally many digits are ordered as their decimal texts. -/
theorem decimal_lt_decimal_iff (h : (decimal m).length = (decimal n).length) :
    decimal m < decimal n ↔ m < n := by
  rw [digits_lt_iff h (digitRun_decimal m).2 (digitRun_decimal n).2, digitsValue_decimal,
    digitsValue_decimal]

/-- A character below all digits behind two runs of digits does not change their order. -/
theorem append_cons_lt_iff {c : Char} (hc : c < '0') (hd : ∀ d ∈ ds, d.isDigit = true)
    (he : ∀ e ∈ es, e.isDigit = true) (hne : ds ≠ es) :
    ds ++ c :: x < es ++ c :: y ↔ ds < es := by
  have hbelow : ∀ d, d.isDigit = true → c < d :=
    fun d hd => Nat.lt_of_lt_of_le hc (toNat_of_isDigit hd).1
  -- where one run ends first, `c` meets a digit of the other one
  induction ds generalizing es with
  | nil =>
    cases es with
    | nil => exact absurd rfl hne
    | cons e es =>
      rw [List.nil_append, List.cons_append, List.cons_lt_cons_iff]
      exact iff_of_true (.inl (hbelow e (he e (by simp)))) (List.nil_lt_cons e es)
  | cons d ds ih =>
    cases es with
    | nil =>
      have hlt := hbelow d (hd d (by simp))
      rw [List.nil_append, List.cons_append, List.cons_lt_cons_iff]
      refine iff_of_false ?_ (List.not_lt_nil _)
      rintro (h | ⟨rfl, -⟩)
      · exact Char.lt_asymm hlt h
      · exact Char.lt_irrefl d hlt
    | cons e es =>
      rw [List.forall_mem_cons] at hd he
      rw [List.cons_append, List.cons_append, List.cons_lt_cons_iff, List.cons_lt_cons_iff]
      refine or_congr_right (and_congr_right ?_)
      rintro rfl
      exact ih hd.2 he.2 fun h => hne (h ▸ rfl)

end PublishGate.Text
