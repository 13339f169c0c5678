import PublishGate.Decision.Report
import PublishGate.Duration.Printer
import PublishGate.Duration.Reader
import PublishGate.Settings
import PublishGate.Toml.Quoted.Writer
import PublishGate.Toml.Reader

/-! # Settings as text

A layer of settings has three sections, `site`, `gate` and `output`, in TOML and in JSON alike. -/

namespace PublishGate.Settings

def entry (name : String) (value : Option String) : List (String × String) :=
  match value with
  | some v => [(name, v)]
  | none => []

def sections (s : Settings) : List (String × List (String × String)) :=
  [("site", entry "base_url" s.baseUrl ++ entry "beta_suffix" s.betaSuffix ++
      entry "pattern" s.pattern ++ entry "timeout" (s.timeout.map (·.text))),
   ("gate", entry "compare" (s.compare.map (·.name))),
   ("output", entry "key" s.key ++ entry "file" (s.file.map (·.text)))]

def toJson (s : Settings) : Json :=
  .object (s.sections.map fun (name, entries) =>
    (name, .object (entries.map fun (key, value) => (key, .string value))))

/-! ## Writing TOML -/

def sectionText (name : String) (entries : List (String × String)) : List Char :=
  '[' :: (name.toList ++ [']', '\n'] ++ entries.flatMap fun (key, value) =>
    key.toList ++ [' ', '=', ' '] ++ Toml.Quoted.write value ++ ['\n'])

def sectionsText : List (String × List (String × String)) → List Char
  | [] => []
  | [(name, entries)] => sectionText name entries
  | (name, entries) :: next :: rest =>
    sectionText name entries ++ '\n' :: sectionsText (next :: rest)

def toToml (s : Settings) : String :=
  String.ofList (sectionsText s.sections)

/-! ## Reading -/

/-- What the two formats differ in: whether an array that stands for a section may be longer than
the section, and which value is the content of a compare mode that is written as a table. -/
structure Format where
  longArrays : Bool
  isUnit : Json → Bool

def Format.json : Format :=
  ⟨false, fun
    | .null => true
    | _ => false⟩

def Format.toml : Format :=
  ⟨true, fun
    | .object [] => true
    | .array [] => true
    | _ => false⟩

/-- The fields of a section in the order of their names, from an object or from an array. An array
holds at least the first `needed` of them. -/
def Format.fields? (format : Format) (names : List String) (needed : Nat) :
    Json → Option (List (Option Json))
  | .object fields => Json.pick? names fields
  | .array items =>
    if needed ≤ items.length ∧ (format.longArrays ∨ items.length ≤ names.length) then
      some ((items.map some ++ List.replicate names.length none).take names.length)
    else none
  | _ => none

/-- An optional field: missing and `null` are the same. -/
def optional? {α : Type} (read : Json → Option α) : Option Json → Option (Option α)
  | none => some none
  | some .null => some none
  | some v => (read v).map some

def timeoutOf? (v : Json) : Option Duration :=
  match v.text?.map Duration.read with
  | some (.ok d) => some d
  | _ => none

def Format.compareOf? (format : Format) : Json → Option CompareMode
  | .string name => CompareMode.ofName? name
  | .object [(name, content)] => if format.isUnit content then CompareMode.ofName? name else none
  | _ => none

def sectionOr (v : Option Json) : Json :=
  v.getD (.object [])

def Format.site? (format : Format) (v : Json) : Option Settings :=
  match format.fields? ["base_url", "beta_suffix", "pattern", "timeout"] 3 v with
  | some [baseUrl, betaSuffix, pattern, timeout] => do
    return {
      baseUrl := ← optional? Json.text? baseUrl
      betaSuffix := ← optional? Json.text? betaSuffix
      pattern := ← optional? Json.text? pattern
      timeout := ← optional? timeoutOf? timeout }
  | _ => none

def Format.gate? (format : Format) (v : Json) : Option Settings :=
  match format.fields? ["compare"] 1 v with
  | some [compare] => do return { compare := ← optional? format.compareOf? compare }
  | _ => none

def Format.output? (format : Format) (v : Json) : Option Settings :=
  match format.fields? ["key", "file"] 2 v with
  | some [key, file] => do
    return {
      key := ← optional? Json.text? key
      file := (← optional? Json.text? file).map .mk }
  | _ => none

/-- Reads all sections; each of them may be left out, and fields with other names count for
nothing. -/
def Format.read? (format : Format) (v : Json) : Option Settings :=
  match format.fields? ["site", "gate", "output"] 0 v with
  | some [site, gate, output] => do
    let site ← format.site? (sectionOr site)
    let gate ← format.gate? (sectionOr gate)
    let output ← format.output? (sectionOr output)
    return (site.merge gate).merge output
  | _ => none

def ofJson? (v : Json) : Option Settings :=
  Format.json.read? v

def ofToml? (text : String) : Option Settings :=
  (Toml.Fields.read? text).bind fun fields =>
    Format.toml.read? (.object (Toml.toJsonFields fields))

end PublishGate.Settings
