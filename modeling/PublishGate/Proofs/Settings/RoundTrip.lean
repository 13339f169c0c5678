import PublishGate.Proofs.Decision.Report
import PublishGate.Proofs.Duration.RoundTrip
import PublishGate.Proofs.Toml.Statements
import PublishGate.Settings.Layout

/-! # Settings read back from their text -/

namespace PublishGate

namespace Settings

abbrev Section := String × List (String × String)

namespace Section

def statements (sec : Section) : List Toml.Statement :=
  .table [sec.1] :: sec.2.map fun (key, value) => .pair [key] (.string value)

def table (sec : Section) : String × Toml.Value :=
  (sec.1, .table .header (sec.2.map fun (key, value) => (key, .string value)))

/-- Names without quotes, and each key once. -/
structure Proper (sec : Section) : Prop where
  bare_name : Toml.Bare sec.1
  bare_key : ∀ e ∈ sec.2, Toml.Bare e.1
  nodup : (sec.2.map Prod.fst).Nodup

end Section

variable {secs : List Section} {sec : Section}

/-! ## The text of a section -/

theorem sectionText_eq (name : String) (entries : List (String × String)) :
    sectionText name entries =
      Toml.headerText name ++ entries.flatMap fun e => Toml.pairText e.1 e.2 := by
  simp [sectionText, Toml.headerText, Toml.pairText]

theorem statements?_pairs {entries : List (String × String)} (h : ∀ e ∈ entries, Toml.Bare e.1)
    (n : Nat) (rest : List Char) :
    Toml.statements? (n + entries.length)
        (entries.flatMap (fun e => Toml.pairText e.1 e.2) ++ rest) =
      (Toml.statements? n rest).map
        ((entries.map fun (key, value) => .pair [key] (.string value)) ++ ·) := by
  induction entries with
  | nil => simp
  | cons e entries ih =>
    have ih := ih fun e he => h e (by simp [he])
    rw [List.flatMap_cons, List.append_assoc, List.length_cons, ← Nat.add_assoc,
      Toml.statements?_pairText (h e (by simp)), ih]
    cases Toml.statements? n rest <;> rfl

/-- The statements of a section are read, and the rest of the text after them. -/
theorem statements?_sectionText (h : sec.Proper) (n : Nat) (rest : List Char) :
    Toml.statements? (n + sec.statements.length) (sectionText sec.1 sec.2 ++ rest) =
      (Toml.statements? n rest).map (sec.statements ++ ·) := by
  have hlen : n + sec.statements.length = n + sec.2.length + 1 := by
    simp only [Section.statements, List.length_cons, List.length_map]
    omega
  rw [hlen, sectionText_eq, List.append_assoc, Toml.statements?_headerText h.bare_name,
    statements?_pairs h.bare_key]
  cases Toml.statements? n rest <;> rfl

theorem statements?_sectionsText (h : ∀ sec ∈ secs, sec.Proper) (n : Nat) :
    Toml.statements? (n + 1 + (secs.flatMap Section.statements).length) (sectionsText secs) =
      some (secs.flatMap Section.statements) := by
  induction secs with
  | nil => simp [sectionsText, Toml.statements?, Toml.skipGap]
  | cons sec secs ih =>
    have hsec := h sec (by simp)
    have ih := ih fun sec hs => h sec (by simp [hs])
    have hlen : n + 1 + ((sec :: secs).flatMap Section.statements).length =
        n + 1 + (secs.flatMap Section.statements).length + sec.statements.length := by
      simp
      omega
    rw [hlen]
    cases secs with
    | nil =>
      have htext : sectionsText [sec] = sectionText sec.1 sec.2 ++ [] := (List.append_nil _).symm
      rw [htext, statements?_sectionText hsec]
      simp [Toml.statements?, Toml.skipGap]
    | cons next secs =>
      rw [sectionsText, statements?_sectionText hsec, Toml.statements?_emptyLine, ih]
      simp

/-! ## The tables of the sections -/

theorem foldlM_pairs {root : Toml.Fields} {name : String} (hname : name ∉ root.map Prod.fst)
    {entries : List (String × String)} {table : Toml.Fields}
    (h : (table.map Prod.fst ++ entries.map Prod.fst).Nodup) :
    (entries.map fun (key, value) => Toml.Statement.pair [key] (.string value)).foldlM
        Toml.Draft.add? ⟨root ++ [(name, .table .header table)], [name]⟩ =
      some ⟨root ++ [(name, .table .header
        (table ++ entries.map fun (key, value) => (key, .string value)))], [name]⟩ := by
  induction entries generalizing table with
  | nil => simp
  | cons e entries ih =>
    obtain ⟨key, value⟩ := e
    have hkey : key ∉ table.map Prod.fst := by
      intro hk
      exact (List.nodup_append.mp h).2.2 key hk key (by simp) rfl
    have h' : ((table ++ [(key, Toml.Value.string value)]).map Prod.fst ++
        entries.map Prod.fst).Nodup := by
      simpa using h
    rw [List.map_cons, List.foldlM_cons, Toml.add?_pair hname hkey]
    simp [ih h']

theorem foldlM_sections {root : Toml.Fields} (path : List String)
    (h : ∀ sec ∈ secs, sec.Proper) (hnames : (root.map Prod.fst ++ secs.map Prod.fst).Nodup) :
    ∃ path', (secs.flatMap Section.statements).foldlM Toml.Draft.add? ⟨root, path⟩ =
      some ⟨root ++ secs.map Section.table, path'⟩ := by
  induction secs generalizing root path with
  | nil => exact ⟨path, by simp⟩
  | cons sec secs ih =>
    have hname : sec.1 ∉ root.map Prod.fst := by
      intro hs
      exact (List.nodup_append.mp hnames).2.2 sec.1 hs sec.1 (by simp) rfl
    have hnames' : ((root ++ [sec.table]).map Prod.fst ++ secs.map Prod.fst).Nodup := by
      simpa [Section.table] using hnames
    have hkeys : (([] : Toml.Fields).map Prod.fst ++ sec.2.map Prod.fst).Nodup :=
      (h sec (by simp)).nodup
    have hpairs := foldlM_pairs hname hkeys
    obtain ⟨path', hpath⟩ := ih [sec.1] (fun sec hs => h sec (by simp [hs])) hnames'
    refine ⟨path', ?_⟩
    rw [List.flatMap_cons, List.foldlM_append, Section.statements, List.foldlM_cons,
      Toml.add?_table hname]
    simp only [Option.bind_eq_bind, Option.bind_some, hpairs, List.nil_append]
    simpa [Section.table] using hpath

theorem length_statements_section (sec : Section) :
    sec.statements.length ≤ (sectionText sec.1 sec.2).length := by
  obtain ⟨name, entries⟩ := sec
  have hpairs : entries.length ≤ (entries.flatMap fun e => Toml.pairText e.1 e.2).length := by
    induction entries with
    | nil => exact Nat.le_refl 0
    | cons e entries ih =>
      have hpos : 0 < (Toml.pairText e.1 e.2).length := by
        simp only [Toml.pairText, List.length_append, List.length_cons]
        omega
      rw [List.flatMap_cons, List.length_append, List.length_cons]
      omega
  simp only [sectionText_eq, Section.statements, Toml.headerText, List.length_append,
    List.length_cons, List.length_map]
  omega

theorem length_statements_le (secs : List Section) :
    (secs.flatMap Section.statements).length ≤ (sectionsText secs).length := by
  induction secs with
  | nil => exact Nat.le_refl 0
  | cons sec secs ih =>
    have hsec := length_statements_section sec
    cases secs with
    | nil => simpa [sectionsText] using hsec
    | cons next secs =>
      rw [sectionsText, List.flatMap_cons, List.length_append, List.length_append, List.length_cons]
      omega

/-- The text of sections is empty or begins with a bracket. -/
theorem sectionsText_ne_mark (secs : List Section) (t : List Char) :
    sectionsText secs ≠ '\uFEFF' :: t := by
  intro he
  unfold sectionsText at he
  split at he
  next => cases he
  next => exact absurd (List.cons.inj he).1 (by decide)
  next => exact absurd (List.cons.inj he).1 (by decide)

/-- Sections with names of their own are read back as their tables. -/
theorem read?_sectionsText (h : ∀ sec ∈ secs, sec.Proper) (hnames : (secs.map Prod.fst).Nodup) :
    Toml.Fields.read? (String.ofList (sectionsText secs)) = some (secs.map Section.table) := by
  obtain ⟨n, hn⟩ : ∃ n, (sectionsText secs).length + 1 =
      n + 1 + (secs.flatMap Section.statements).length := by
    have hlen := length_statements_le secs
    exact ⟨(sectionsText secs).length - (secs.flatMap Section.statements).length, by omega⟩
  have hroot : (([] : Toml.Fields).map Prod.fst ++ secs.map Prod.fst).Nodup := hnames
  obtain ⟨path, hpath⟩ := foldlM_sections [] h hroot
  unfold Toml.Fields.read?
  rw [String.toList_ofList]
  split
  next he => exact absurd he (sectionsText_ne_mark secs _)
  next =>
    simp only [hn, statements?_sectionsText h]
    simp [Toml.Fields.ofStatements?, hpath]

/-! ## The settings in the sections -/

theorem toJsonFields_table (secs : List Section) :
    Toml.toJsonFields (secs.map Section.table) = secs.map fun (name, entries) =>
      (name, Json.object (entries.map fun (key, value) => (key, .string value))) := by
  have hentries (entries : List (String × String)) :
      Toml.toJsonFields (entries.map fun (key, value) => (key, .string value)) =
        entries.map fun (key, value) => (key, Json.string value) := by
    induction entries with
    | nil => rfl
    | cons e entries ih => rw [List.map_cons, Toml.toJsonFields, ih]; rfl
  induction secs with
  | nil => rfl
  | cons sec secs ih =>
    rw [List.map_cons, Section.table, Toml.toJsonFields, ih, Toml.Value.toJson, hentries]
    rfl

def entries (settings : List (String × Option String)) : List (String × String) :=
  settings.flatMap fun (name, value) => entry name value

theorem named_entries_of_not_mem {name : String} {settings : List (String × Option String)}
    (h : name ∉ settings.map Prod.fst) :
    Json.named name ((entries settings).map fun (key, value) => (key, .string value)) = [] := by
  simp only [Json.named, List.map_eq_nil_iff, List.filter_eq_nil_iff]
  intro field hfield
  simp only [entries, List.mem_map, List.mem_flatMap] at hfield
  obtain ⟨⟨key, value⟩, ⟨⟨k, v⟩, hk, he⟩, rfl⟩ := hfield
  cases v with
  | none => cases he
  | some v =>
    obtain rfl : key = k := congrArg Prod.fst (List.mem_singleton.mp he)
    have hne : key ≠ name := fun hn => h (hn ▸ List.mem_map_of_mem hk)
    simpa using hne

theorem named_entries {name : String} {value : Option String}
    {settings : List (String × Option String)} (hn : (settings.map Prod.fst).Nodup)
    (h : (name, value) ∈ settings) :
    Json.named name ((entries settings).map fun (key, value) => (key, .string value)) =
      value.toList.map .string := by
  induction settings with
  | nil => cases h
  | cons first settings ih =>
    obtain ⟨key, v⟩ := first
    obtain ⟨hkey, hn⟩ := List.nodup_cons.mp hn
    rcases List.mem_cons.mp h with he | hmem
    · obtain ⟨rfl, rfl⟩ := Prod.mk.inj he
      have hrest := named_entries_of_not_mem hkey
      cases value with
      | none => exact hrest
      | some v =>
        simp only [Json.named, entries, entry, List.flatMap_cons, List.singleton_append,
          List.map_cons, Option.toList_some, List.map_nil] at hrest ⊢
        rw [List.filter_cons_of_pos (by simp), List.map_cons, hrest]
    · have hname : name ∈ settings.map Prod.fst := List.mem_map_of_mem hmem
      have hne : key ≠ name := fun he => hkey (he ▸ hname)
      have hrest := ih hn hmem
      cases v with
      | none => exact hrest
      | some v =>
        simp only [Json.named, entries, entry, List.flatMap_cons, List.singleton_append,
          List.map_cons] at hrest ⊢
        rw [List.filter_cons_of_neg (by simpa using hne), hrest]

theorem mapM_eq_some {α β : Type} {f : α → Option β} {g : α → β} {l : List α}
    (h : ∀ a ∈ l, f a = some (g a)) : l.mapM f = some (l.map g) := by
  induction l with
  | nil => rfl
  | cons a l ih =>
    rw [List.mapM_cons, h a (by simp), ih fun b hb => h b (by simp [hb])]
    rfl

def sectionJson (settings : List (String × Option String)) : Json :=
  .object ((entries settings).map fun (key, value) => (key, .string value))

/-- Each setting is found under its name. -/
theorem Format.fields?_sectionJson (format : Format) {settings : List (String × Option String)}
    (hn : (settings.map Prod.fst).Nodup) (needed : Nat) :
    format.fields? (settings.map Prod.fst) needed (sectionJson settings) =
      some (settings.map fun (_, value) => value.map .string) := by
  unfold fields? sectionJson Json.pick?
  dsimp only
  rw [List.mapM_map]
  refine mapM_eq_some fun (name, value) h => ?_
  simp only [Function.comp, named_entries hn h]
  cases value <;> rfl

theorem optional?_string {α : Type} {read : Json → Option α} {f : α → String}
    (h : ∀ a, read (.string (f a)) = some a) (value : Option α) :
    optional? read ((value.map f).map .string) = some value := by
  cases value with
  | none => rfl
  | some a => simp [optional?, h]

theorem optional?_text (value : Option String) :
    optional? Json.text? (value.map .string) = some value := by
  cases value <;> rfl

theorem timeoutOf?_text (d : Duration) : timeoutOf? (.string d.text) = some d := by
  simp [timeoutOf?, Json.text?, Duration.read_text]

def siteSettings (s : Settings) : List (String × Option String) :=
  [("base_url", s.baseUrl), ("beta_suffix", s.betaSuffix), ("pattern", s.pattern),
   ("timeout", s.timeout.map (·.text))]

def gateSettings (s : Settings) : List (String × Option String) :=
  [("compare", s.compare.map (·.name))]

def outputSettings (s : Settings) : List (String × Option String) :=
  [("key", s.key), ("file", s.file.map (·.text))]

theorem sections_eq (s : Settings) : s.sections = [("site", entries s.siteSettings),
    ("gate", entries s.gateSettings), ("output", entries s.outputSettings)] := by
  simp [sections, entries, siteSettings, gateSettings, outputSettings]

theorem toJson_eq (s : Settings) : s.toJson = .object [("site", sectionJson s.siteSettings),
    ("gate", sectionJson s.gateSettings), ("output", sectionJson s.outputSettings)] := by
  simp [toJson, sections_eq, sectionJson]

variable (format : Format) (s : Settings)

theorem nodup_siteSettings : (s.siteSettings.map Prod.fst).Nodup :=
  show ["base_url", "beta_suffix", "pattern", "timeout"].Nodup by decide

theorem nodup_gateSettings : (s.gateSettings.map Prod.fst).Nodup :=
  show ["compare"].Nodup by decide

theorem nodup_outputSettings : (s.outputSettings.map Prod.fst).Nodup :=
  show ["key", "file"].Nodup by decide

theorem Format.site?_sectionJson : format.site? (sectionJson s.siteSettings) =
    some { baseUrl := s.baseUrl, betaSuffix := s.betaSuffix, pattern := s.pattern,
           timeout := s.timeout } := by
  have hfields := format.fields?_sectionJson (nodup_siteSettings s) 3
  have htimeout := optional?_string timeoutOf?_text s.timeout
  simp only [siteSettings, List.map_cons, List.map_nil] at hfields
  simp only [site?, siteSettings, hfields, optional?_text, htimeout]
  rfl

theorem Format.gate?_sectionJson :
    format.gate? (sectionJson s.gateSettings) = some { compare := s.compare } := by
  have hfields := format.fields?_sectionJson (nodup_gateSettings s) 1
  have hname (mode : CompareMode) : format.compareOf? (.string mode.name) = some mode :=
    mode.ofName?_name
  have hcompare := optional?_string hname s.compare
  simp only [gateSettings, List.map_cons, List.map_nil] at hfields
  simp only [gate?, gateSettings, hfields, hcompare]
  rfl

theorem Format.output?_sectionJson :
    format.output? (sectionJson s.outputSettings) = some { key := s.key, file := s.file } := by
  have hfields := format.fields?_sectionJson (nodup_outputSettings s) 2
  simp only [outputSettings, List.map_cons, List.map_nil] at hfields
  simp only [output?, outputSettings, hfields, optional?_text]
  cases s.file <;> rfl

/-- Either format reads back all settings and sets no others. -/
theorem Format.read?_toJson : format.read? s.toJson = some s := by
  have hfields (site gate output : Json) : format.fields? ["site", "gate", "output"] 0
      (.object [("site", site), ("gate", gate), ("output", output)]) =
        some [some site, some gate, some output] := rfl
  rw [toJson_eq, read?, hfields]
  simp only [sectionOr, Option.getD_some, format.site?_sectionJson, format.gate?_sectionJson,
    format.output?_sectionJson]
  simp [merge]

theorem keys_entries_sublist (settings : List (String × Option String)) :
    ((entries settings).map Prod.fst).Sublist (settings.map Prod.fst) := by
  induction settings with
  | nil => exact List.Sublist.refl []
  | cons first settings ih =>
    obtain ⟨key, value⟩ := first
    cases value with
    | none => exact ih.cons key
    | some v => exact ih.cons_cons key

theorem proper_entries {name : String} {settings : List (String × Option String)}
    (hname : Toml.Bare name) (hkeys : ∀ key ∈ settings.map Prod.fst, Toml.Bare key)
    (hn : (settings.map Prod.fst).Nodup) : Section.Proper (name, entries settings) where
  bare_name := hname
  bare_key e he := hkeys e.1 ((keys_entries_sublist settings).subset (List.mem_map_of_mem he))
  nodup := hn.sublist (keys_entries_sublist settings)

theorem proper_of_mem_sections (h : sec ∈ s.sections) : sec.Proper := by
  have hsite : ∀ key ∈ ["base_url", "beta_suffix", "pattern", "timeout"], Toml.Bare key := by decide
  have hgate : ∀ key ∈ ["compare"], Toml.Bare key := by decide
  have houtput : ∀ key ∈ ["key", "file"], Toml.Bare key := by decide
  simp only [sections_eq, List.mem_cons, List.not_mem_nil, or_false] at h
  rcases h with rfl | rfl | rfl
  · exact proper_entries (by decide) hsite (nodup_siteSettings s)
  · exact proper_entries (by decide) hgate (nodup_gateSettings s)
  · exact proper_entries (by decide) houtput (nodup_outputSettings s)

/-- Settings that are written as a TOML document are read back from it. -/
theorem ofToml?_toToml : ofToml? s.toToml = some s := by
  have hnames : (s.sections.map Prod.fst).Nodup :=
    show ["site", "gate", "output"].Nodup by decide
  rw [ofToml?, toToml, read?_sectionsText (fun sec => proper_of_mem_sections s) hnames,
    Option.bind_some, toJsonFields_table]
  exact Format.toml.read?_toJson s

end Settings

end PublishGate
