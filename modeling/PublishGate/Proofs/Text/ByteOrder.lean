import Mathlib.Data.String.Basic
import Mathlib.Tactic.SplitIfs
import PublishGate.Text.Utf8

/-! # The order of texts and the order of their bytes

UTF-8 keeps the order of code points: texts compare as their bytes do, byte by byte. -/

namespace PublishGate.Text

variable {c d : Char} {s t : List Char}

theorem ofList_lt_ofList_iff : String.ofList s < String.ofList t ↔ s < t := by
  rw [String.lt_iff_toList_lt, String.toList_ofList, String.toList_ofList]

/-- What texts have in common at the front does not count. -/
theorem append_lt_append_iff (lead : List Char) : lead ++ s < lead ++ t ↔ s < t := by
  induction lead with
  | nil => rfl
  | cons c lead ih => simp [ih]

theorem ofNat_lt_ofNat_iff {m n : Nat} (hm : m < 256) (hn : n < 256) :
    UInt8.ofNat m < UInt8.ofNat n ↔ m < n := by
  rw [UInt8.lt_iff_toNat_lt, UInt8.toNat_ofNat_of_lt' hm, UInt8.toNat_ofNat_of_lt' hn]

theorem ofNat_eq_ofNat_iff {m n : Nat} (hm : m < 256) (hn : n < 256) :
    UInt8.ofNat m = UInt8.ofNat n ↔ m = n := by
  rw [← UInt8.toNat_inj, UInt8.toNat_ofNat_of_lt' hm, UInt8.toNat_ofNat_of_lt' hn]

/-- Of two numbers the one with the smaller digits in base 64 is smaller, the leading digits
deciding. -/
theorem sextets_lt {m n : Nat} (h : m < n) :
    m / 262144 < n / 262144 ∨ m / 262144 = n / 262144 ∧
      (m / 4096 % 0x40 < n / 4096 % 0x40 ∨ m / 4096 % 0x40 = n / 4096 % 0x40 ∧
        (m / 64 % 0x40 < n / 64 % 0x40 ∨ m / 64 % 0x40 = n / 64 % 0x40 ∧ m % 0x40 < n % 0x40)) := by
  have hlast : m / 64 < n / 64 ∨ m / 64 = n / 64 ∧ m % 0x40 < n % 0x40 := by omega
  rcases hlast with hlt | ⟨heq, hlt⟩
  · have hm : m / 4096 = m / 64 / 64 := by omega
    have hn : n / 4096 = n / 64 / 64 := by omega
    rw [hm, hn]
    omega
  · omega

/-- Whatever follows, the bytes of the smaller character come first. -/
theorem utf8EncodeChar_lt (h : c < d) (x y : List UInt8) :
    String.utf8EncodeChar c ++ x < String.utf8EncodeChar d ++ y := by
  have hlt : c.val.toNat < d.val.toNat := h
  have hd : d.val.toNat < 0x110000 := by
    have := d.valid
    simp only [UInt32.isValidChar, Nat.isValidChar] at this
    omega
  have hdigits := sextets_lt hlt
  unfold String.utf8EncodeChar
  generalize c.val.toNat = m at hlt hdigits
  generalize d.val.toNat = n at hlt hd hdigits
  have hm : m / 262144 % 0x08 = m / 262144 := by omega
  have hn : n / 262144 % 0x08 = n / 262144 := by omega
  dsimp only
  split_ifs <;>
    simp (disch := omega) only [List.cons_append, List.nil_append, List.cons_lt_cons_iff, hm, hn,
      ofNat_lt_ofNat_iff, ofNat_eq_ofNat_iff] <;> omega

theorem flatMap_utf8EncodeChar_lt (h : s < t) :
    s.flatMap String.utf8EncodeChar < t.flatMap String.utf8EncodeChar := by
  induction s generalizing t with
  | nil =>
    cases t with
    | nil => exact absurd h (List.lt_irrefl [])
    | cons d t =>
      obtain ⟨b, bs, hb⟩ := List.exists_cons_of_ne_nil (String.utf8EncodeChar_ne_nil (c := d))
      simp [hb]
  | cons c s ih =>
    cases t with
    | nil => simp at h
    | cons d t =>
      rw [List.flatMap_cons, List.flatMap_cons]
      rcases List.cons_lt_cons_iff.mp h with hlt | ⟨rfl, hlt⟩
      · exact utf8EncodeChar_lt hlt _ _
      · exact List.append_left_lt (ih hlt)

/-- Texts compare as their bytes. -/
theorem encode_lt_encode_iff {a b : String} : encode a < encode b ↔ a < b := by
  have hmono : ∀ {a b : String}, a < b → encode a < encode b :=
    fun h => flatMap_utf8EncodeChar_lt h
  constructor
  · intro h
    rcases lt_trichotomy a b with hlt | rfl | hgt
    · exact hlt
    · exact absurd h (List.lt_irrefl _)
    · exact absurd h (List.lt_asymm (hmono hgt))
  · exact hmono

end PublishGate.Text
