import PublishGate.Text.Pieces
import PublishGate.Text.Utf8

/-! # The text of a response body -/

namespace PublishGate.Http

/-- The code points of windows-1252 for the bytes 0x80 to 0x9F; the other bytes are those of
Unicode. -/
def westernHigh : List Nat :=
  [0x20AC, 0x81, 0x201A, 0x192, 0x201E, 0x2026, 0x2020, 0x2021, 0x2C6, 0x2030, 0x160, 0x2039, 0x152,
   0x8D, 0x17D, 0x8F, 0x90, 0x2018, 0x2019, 0x201C, 0x201D, 0x2022, 0x2013, 0x2014, 0x2DC, 0x2122,
   0x161, 0x203A, 0x153, 0x9D, 0x17E, 0x178]

def westernChar (b : UInt8) : Char :=
  if 0x80 ≤ b.toNat ∧ b.toNat < 0xA0 then Char.ofNat (westernHigh.getD (b.toNat - 0x80) 0xFFFD)
  else Char.ofNat b.toNat

def westernNames : List String :=
  ["windows-1252", "cp1252", "x-cp1252", "iso-8859-1", "iso8859-1", "iso88591", "iso_8859-1",
   "latin1", "l1", "ascii", "us-ascii", "ansi_x3.4-1968"]

def charset? (contentType : String) : Option String :=
  (Text.cutFirst? "charset=".toList (contentType.toList.map Char.toLower)).map fun (_, rest) =>
    String.ofList ((rest.takeWhile (· != ';')).filter fun c => c != '"' && c != ' ')

/-- The text of a body. A byte order mark is dropped and says that the rest is UTF-8. -/
def bodyText (contentType : Option String) (body : List UInt8) : String :=
  match body with
  | 0xEF :: 0xBB :: 0xBF :: rest => Text.decodeLossy rest
  | body =>
    match contentType.bind charset? with
    | some name =>
      if name ∈ westernNames then String.ofList (body.map westernChar) else Text.decodeLossy body
    | none => Text.decodeLossy body

end PublishGate.Http
