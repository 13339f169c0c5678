/-! # UTF-8 -/

namespace PublishGate.Text

/-- What follows a leading byte: how many bytes, and the range of the first of them. -/
structure Lead where
  bits : Nat
  trail : Nat
  low : Nat
  high : Nat
  deriving DecidableEq, Repr

/-- The well-formed leading bytes above ASCII. The range of the second byte keeps out overlong
forms, surrogates and code points above U+10FFFF. -/
def lead? (b : Nat) : Option Lead :=
  if 0xC2 ≤ b ∧ b ≤ 0xDF then some ⟨b - 0xC0, 1, 0x80, 0xBF⟩
  else if b = 0xE0 then some ⟨0, 2, 0xA0, 0xBF⟩
  else if b = 0xED then some ⟨0xD, 2, 0x80, 0x9F⟩
  else if 0xE1 ≤ b ∧ b ≤ 0xEF then some ⟨b - 0xE0, 2, 0x80, 0xBF⟩
  else if b = 0xF0 then some ⟨0, 3, 0x90, 0xBF⟩
  else if 0xF1 ≤ b ∧ b ≤ 0xF3 then some ⟨b - 0xF0, 3, 0x80, 0xBF⟩
  else if b = 0xF4 then some ⟨4, 3, 0x80, 0x8F⟩
  else none

/-- The state between two bytes: nothing pending, or a character of which `left` bytes are still
to come, the next one between `low` and `high`. -/
inductive Pending where
  | nothing
  | partway (value left low high : Nat)
  deriving DecidableEq, Repr

/-- Decoded text, character by character; `none` marks a maximal invalid part. -/
def marks : Pending → List UInt8 → List (Option Char)
  | .nothing, [] => []
  | .partway .., [] => [none]
  | .nothing, b :: bs =>
    if b.toNat < 0x80 then some (Char.ofNat b.toNat) :: marks .nothing bs
    else match lead? b.toNat with
      | some l => marks (.partway l.bits l.trail l.low l.high) bs
      | none => none :: marks .nothing bs
  | .partway value left low high, b :: bs =>
    if low ≤ b.toNat ∧ b.toNat ≤ high then
      let value := value * 64 + (b.toNat - 0x80)
      if left ≤ 1 then some (Char.ofNat value) :: marks .nothing bs
      else marks (.partway value (left - 1) 0x80 0xBF) bs
    else if b.toNat < 0x80 then none :: some (Char.ofNat b.toNat) :: marks .nothing bs
    else match lead? b.toNat with
      | some l => none :: marks (.partway l.bits l.trail l.low l.high) bs
      | none => none :: none :: marks .nothing bs

def decode? (bytes : List UInt8) : Option String :=
  ((marks .nothing bytes).mapM id).map String.ofList

def decodeLossy (bytes : List UInt8) : String :=
  String.ofList ((marks .nothing bytes).map (·.getD '\uFFFD'))

def encode (s : String) : List UInt8 :=
  s.toList.flatMap String.utf8EncodeChar

end PublishGate.Text
