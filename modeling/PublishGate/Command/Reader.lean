import PublishGate.Command

/-! # Reading the command line -/

namespace PublishGate

namespace Command

/-- What follows the name of an option: nothing, a value, or a value that may look like an option. -/
inductive Arity where
  | flag
  | value
  | anyValue
  deriving DecidableEq, Repr

/-- A set of options: what follows a name, and what a name with its value does. An option that is
given twice, and a value that it does not take, are refused. -/
structure OptionTable (α : Type) where
  arity? : String → Option Arity
  set? : String → String → α → Option α
  version : Bool := false

def once {α : Type} (place : Option α) (value : α) : Option (Option α) :=
  match place with
  | none => some (some value)
  | some _ => none

def pathOf? (text : String) : Option Path :=
  if text = "" then none else some ⟨text⟩

def formatOf? (text : String) : Option ReportFormat :=
  if text = "text" then some .text
  else if text = "json" then some .json
  else none

def modeOf? (text : String) : Option CompareMode :=
  match CompareMode.read text with
  | .ok mode => some mode
  | .error _ => none

def optionTable : OptionTable Options where
  version := true
  arity? name :=
    if name = "stable" ∨ name = "beta" then some .flag
    else if name = "beta-suffix" then some .anyValue
    else if name ∈ ["config", "base-url", "pattern", "timeout", "compare", "build-version", "repo"]
    then some .value
    else none
  set? name value o :=
    match name with
    | "config" => do return { o with config := ← once o.config (← pathOf? value) }
    | "base-url" => do return { o with baseUrl := ← once o.baseUrl value }
    | "beta-suffix" => do return { o with betaSuffix := ← once o.betaSuffix value }
    | "pattern" => do return { o with pattern := ← once o.pattern value }
    | "timeout" => do return { o with timeout := ← once o.timeout value }
    | "compare" => do return { o with compare := ← once o.compare (← modeOf? value) }
    | "build-version" => do return { o with buildVersion := ← once o.buildVersion value }
    | "repo" => do return { o with repo := ← once o.repo (← pathOf? value) }
    | "stable" => if o.stable then none else some { o with stable := true }
    | "beta" => if o.beta then none else some { o with beta := true }
    | _ => none

def checkTable : OptionTable CheckOptions where
  arity? name :=
    if name ∈ ["format", "output", "output-key", "page"] then some .value else none
  set? name value o :=
    match name with
    | "format" => do return { o with format := ← once o.format (← formatOf? value) }
    | "output" => do return { o with output := ← once o.output (← pathOf? value) }
    | "output-key" => do return { o with outputKey := ← once o.outputKey value }
    | "page" => do return { o with page := ← once o.page (← pathOf? value) }
    | _ => none

def noTable : OptionTable Unit where
  arity? _ := none
  set? _ _ _ := none

/-- A word of the command line by its shape: the end of the options, a long option with an attached
value or without, short options, or a plain word. A lone dash is a plain word. -/
inductive Word where
  | endOfOptions
  | long (name : String) (value : Option String)
  | short (letters : List Char)
  | plain
  deriving DecidableEq, Repr

def Word.of (text : String) : Word :=
  match text.toList with
  | ['-', '-'] => .endOfOptions
  | '-' :: '-' :: s =>
    let name := s.takeWhile (· != '=')
    match s.dropWhile (· != '=') with
    | '=' :: value => .long (String.ofList name) (some (String.ofList value))
    | _ => .long (String.ofList name) none
  | '-' :: c :: s => .short (c :: s)
  | _ => .plain

/-- Short options: only help and, where there is one, the version; the first letter counts. -/
def shortNotice (version : Bool) : List Char → Notice
  | 'h' :: _ => .help
  | 'V' :: _ => if version then .version else .usage
  | _ => .usage

def Arity.admits (arity : Arity) (text : String) : Bool :=
  arity == .anyValue || Word.of text == .plain

def setOr {α : Type} (table : OptionTable α) (name value : String) (o : α) : Except Notice α :=
  match table.set? name value o with
  | some o => .ok o
  | none => .error .usage

def readOptions {α : Type} (table : OptionTable α) : List String → α →
    Except Notice (α × List String)
  | [], o => .ok (o, [])
  | text :: rest, o =>
    match Word.of text with
    | .plain => .ok (o, text :: rest)
    | .endOfOptions => .ok (o, text :: rest)
    | .short letters => .error (shortNotice table.version letters)
    | .long name (some value) =>
      match table.arity? name with
      | some .value | some .anyValue => do readOptions table rest (← setOr table name value o)
      | _ => .error .usage
    | .long name none =>
      match table.arity? name with
      | some .flag => do readOptions table rest (← setOr table name "" o)
      | some arity =>
        match rest with
        | [] => .error .usage
        | value :: rest =>
          if arity.admits value then do readOptions table rest (← setOr table name value o)
          else .error .usage
      | none =>
        if name = "help" then .error .help
        else if name = "version" ∧ table.version then .error .version
        else .error .usage

def finished : List String → Except Notice Unit
  | [] => .ok ()
  | ["--"] => .ok ()
  | _ => .error .usage

/-- The path of a page, which is the only plain word; options may stand on both sides of it. -/
def readPage (words : List String) : Except Notice Path := do
  let ((), rest) ← readOptions noTable words ()
  match rest with
  | ["--", page] =>
    match pathOf? page with
    | some p => return p
    | none => throw .usage
  | "--" :: _ => throw .usage
  | page :: rest =>
    match pathOf? page with
    | some p =>
      let ((), rest) ← readOptions noTable rest ()
      finished rest
      return p
    | none => throw .usage
  | [] => throw .usage

def readAction (name : String) (words : List String) : Except Notice Action :=
  if name = "check" then do
    let (o, rest) ← readOptions checkTable words {}
    finished rest
    return .check o
  else if name = "version" then do
    let ((), rest) ← readOptions noTable words ()
    finished rest
    return .version
  else if name = "url" then do
    let ((), rest) ← readOptions noTable words ()
    finished rest
    return .url
  else if name = "scan" then do return .scan (← readPage words)
  else if name = "help" then .error .help
  else .error .usage

/-- Reads a command: options, then an action. It cannot be told to take both sites. -/
def read (words : List String) : Except Notice Command := do
  let (options, rest) ← readOptions optionTable words {}
  match rest with
  | [] => throw .usage
  | name :: rest =>
    let action ← readAction name rest
    if options.stable && options.beta then throw .usage
    return ⟨options, action⟩

end Command

end PublishGate
