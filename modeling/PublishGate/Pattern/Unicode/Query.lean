import PublishGate.Pattern.Unicode.AgeTable
import PublishGate.Pattern.Unicode.BreakTable
import PublishGate.Pattern.Unicode.CategoryTable
import PublishGate.Pattern.Unicode.PropertyTable
import PublishGate.Pattern.Unicode.ScriptExtensionTable
import PublishGate.Pattern.Unicode.ScriptTable
import PublishGate.Text.Blank
import PublishGate.Text.Decimal

/-! # Characters by property -/

namespace PublishGate.Pattern.Unicode

/-- How names are compared: case, blanks, underscores and hyphens do not count, nor does a leading
`is`, nor anything outside ASCII. Only `isc` keeps its `is`. -/
def looseName (name : List Char) : String :=
  let isSkipped (c : Char) : Bool := c = ' ' || c = '_' || c = '-' || decide (0x7F < c.toNat)
  let lower (c : Char) : Char := if 'A' ≤ c ∧ c ≤ 'Z' then Char.ofNat (c.toNat + 32) else c
  let plain (cs : List Char) : List Char := (cs.filter (!isSkipped ·)).map lower
  match name with
  | i :: s :: rest =>
    if lower i = 'i' ∧ lower s = 's' then
      if plain rest = ['c'] then "isc" else String.ofList (plain rest)
    else String.ofList (plain name)
  | _ => String.ofList (plain name)

def leaf (name : String) : Charset :=
  match Packed.find? name categories with
  | some p => p.charset
  | none => .empty

def assigned : Charset :=
  Charset.unionAll (categories.map Packed.charset)

def categoryGroups : List (List String × List String) :=
  [(["l", "letter"], ["lu", "ll", "lt", "lm", "lo"]),
   (["lc", "casedletter"], ["lu", "ll", "lt"]),
   (["m", "mark", "combiningmark"], ["mn", "mc", "me"]),
   (["n", "number"], ["nd", "nl", "no"]),
   (["p", "punctuation", "punct"], ["pc", "pd", "ps", "pe", "pi", "pf", "po"]),
   (["s", "symbol"], ["sm", "sc", "sk", "so"]),
   (["z", "separator"], ["zs", "zl", "zp"])]

def category? (name : String) : Option Charset :=
  if name = "any" then some .full
  else if name = "ascii" then some (.interval 0 0x7F)
  else if name = "assigned" then some assigned
  else if name = "cn" ∨ name = "unassigned" then some assigned.complement
  else if name = "c" ∨ name = "other" then
    some (Charset.unionAll [leaf "cc", leaf "cf", leaf "co", assigned.complement])
  else match categoryGroups.find? (·.1.contains name) with
    | some (_, leaves) => some (Charset.unionAll (leaves.map leaf))
    | none => (Packed.find? name categories).map Packed.charset

def script? (name : String) : Option Charset :=
  (Packed.find? name scripts).map Packed.charset

def scriptExtension? (name : String) : Option Charset :=
  match Packed.find? name sharedScripts with
  | some p => some p.charset
  | none => script? name

/-- What a version of the standard and all before it assign. -/
def age? (name : String) : Option Charset :=
  if ages.any (·.names.contains name) then
    let older := ages.takeWhile (!·.names.contains name)
    some (Charset.unionAll ((older ++ (Packed.find? name ages).toList).map Packed.charset))
  else none

def named? (name : List Char) : Option Charset :=
  let name := looseName name
  match Packed.find? name properties with
  | some p => some p.charset
  | none =>
    match category? name with
    | some s => some s
    | none => script? name

def valued? (property value : List Char) : Option Charset :=
  let value := looseName value
  match looseName property with
  | "gc" | "generalcategory" => category? value
  | "sc" | "script" => script? value
  | "scx" | "scriptextensions" => scriptExtension? value
  | "age" => age? value
  | "gcb" | "graphemeclusterbreak" => (Packed.find? value graphemeBreaks).map Packed.charset
  | "wb" | "wordbreak" => (Packed.find? value wordBreaks).map Packed.charset
  | "sb" | "sentencebreak" => (Packed.find? value sentenceBreaks).map Packed.charset
  | _ => none

def digits : Charset := leaf "nd"

def blanks : Charset := .ofPairs Text.blankRanges

def property (name : String) : Charset :=
  match Packed.find? name properties with
  | some p => p.charset
  | none => .empty

def alphabetic : Charset := property "alphabetic"

def wordChars : Charset :=
  (Charset.unionAll [alphabetic, leaf "mn", leaf "mc", leaf "me", digits, leaf "pc",
    property "joincontrol"]).tidy

def alphanumeric : Charset :=
  (Charset.unionAll [alphabetic, digits, leaf "nl", leaf "no"]).tidy

end PublishGate.Pattern.Unicode
