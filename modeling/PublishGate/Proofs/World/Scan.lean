import PublishGate.Proofs.World.Exit

/-! # Scanning the page that a check has looked at

A check and a scan read settings, pattern and page alike. So a page that a check can decide on can be
scanned, and the scan prints the versions that the decision was made from. -/

namespace PublishGate

namespace Text

def ofLines (lines : List String) : String :=
  String.join (lines.map (· ++ "\n"))

/-- The lines of a text in which every line ends with a line feed. -/
def lines? (text : String) : Option (List String) :=
  let parts := text.toList.splitOnP Decision.isLineFeed
  if parts.getLast? = some [] then some (parts.dropLast.map String.ofList) else none

theorem splitOnP_ofLines {lines : List String}
    (h : ∀ line ∈ lines, ∀ c ∈ line.toList, Decision.isLineFeed c = false) :
    (ofLines lines).toList.splitOnP Decision.isLineFeed = lines.map String.toList ++ [[]] := by
  induction lines with
  | nil => rfl
  | cons line lines ih =>
    obtain ⟨hline, hlines⟩ := List.forall_mem_cons.mp h
    have hcons : (ofLines (line :: lines)).toList =
        line.toList ++ '\n' :: (ofLines lines).toList := by
      simp [ofLines, String.toList_join]
    rw [hcons, List.splitOnP_append_cons _ _ (by rfl), List.splitOnP_eq_singleton hline, ih hlines]
    rfl

theorem lines?_ofLines {lines : List String}
    (h : ∀ line ∈ lines, ∀ c ∈ line.toList, Decision.isLineFeed c = false) :
    lines? (ofLines lines) = some lines := by
  unfold lines?
  rw [splitOnP_ofLines h]
  simp

end Text

theorem VersionPattern.not_lineFeed_of_mem_scan {p : VersionPattern} {page version : String}
    (h : version ∈ p.scan page) : ∀ c ∈ version.toList, Decision.isLineFeed c = false := by
  intro c hc
  have hend := not_lineEnd_of_mem_scan h hc
  simp_all [isLineEnd, Decision.isLineFeed]

namespace World

variable {o : Options} {c : CheckOptions} {w w' v : World} {page page' : Path} {body : String}
variable {s : Settings} {pattern : VersionPattern}

def pageBytes (w : World) (page : Path) : Except FileError (List UInt8) :=
  if page.isInput then .ok w.input else w.tree.readBytes w.cwd page

theorem mapError_eq_ok_iff {x : Except FileError String} {f : FileError → Failure} :
    x.mapError f = .ok body ↔ x = .ok body := by
  cases x with
  | error e => simp [Except.mapError]
  | ok text => simp [Except.mapError]

theorem savedPage_eq_ok_iff :
    w.savedPage page = .ok body ↔ (w.pageBytes page).bind FileTree.textOf = .ok body := by
  unfold savedPage pageBytes
  by_cases hinput : page.isInput = true
  · rw [if_pos hinput, if_pos hinput, mapError_eq_ok_iff]
    rfl
  · rw [if_neg hinput, if_neg hinput, mapError_eq_ok_iff]
    rfl

/-- Of the surroundings only the layer from the settings file counts for the settings. -/
theorem settings_fst (o : Options) (w : World) :
    ((host.settings o).run w).1 =
      (w.layer o).bind fun layer => o.readTimeout.map fun timeout =>
        layer.merge (o.settings timeout) := by
  cases hlayer : w.layer o with
  | error f => rw [settings_run_error_of_layer hlayer]; rfl
  | ok layer =>
    cases htimeout : o.readTimeout with
    | error f => rw [settings_run_error_of_timeout hlayer htimeout]; rfl
    | ok timeout =>
      rw [settings_run_ok hlayer htimeout, effective, hlayer, htimeout]
      rfl

theorem settings_of_layer (hlayer : v.layer o = w.layer o)
    (h : (host.settings o).run w = (.ok s, w)) : (host.settings o).run v = (.ok s, v) := by
  have hfst := settings_fst o v
  rw [hlayer, ← settings_fst, h] at hfst
  exact Prod.ext hfst (settings_snd o v)

def scanReport (page : Path) (found : List String) : List Event :=
  if found = [] then [⟨.warn, "no version found in " ++ page.text⟩] else []

theorem scan_run (hpattern : VersionPattern.read w.dialect s.patternSource = .ok pattern)
    (hbody : w.savedPage page = .ok body) :
    (host.scan page s).run w = (.ok (), { w with
      reported := w.reported ++ scanReport page (pattern.scan body)
      printed := w.printed ++ pattern.scan body }) := by
  have hp : (host.pattern s).run w = (.ok pattern, w) := by
    rw [pattern_eq, hpattern]
    rfl
  have hr : (host.readPage page).run w = (.ok body, w) := by rw [readPage_eq, hbody]
  unfold Host.scan scanReport
  rw [attempt_bind_ok hp, attempt_bind_ok hr]
  dsimp only
  cases pattern.scan body with
  | nil =>
    simp only [List.isEmpty_nil, ↓reduceIte]
    rw [attempt_bind, attempt_lift, host_report]
    dsimp only
    rw [attempt_lift, host_printAll]
  | cons version versions =>
    simp only [List.isEmpty_cons, Bool.false_eq_true, ↓reduceIte, reduceCtorEq]
    rw [attempt_lift, host_printAll, List.append_nil]

/-- What a check that exits with 0 has decided on, and what it has printed. -/
theorem subject_of_exit_zero (h : host.execute ⟨o, .check c⟩ w = (0, w')) :
    ∃ j : Subject o c w, Printed j j.decision w' := by
  have hcode : (host.execute ⟨o, .check c⟩ w).1 = 0 := by rw [h]
  have hnone : w.earlyFault? o c = none := by
    rw [earlyFault?_eq_none_iff]
    intro step _
    by_contra hfault
    exact execute_ne_zero_iff.mpr ⟨step, hfault⟩ hcode
  obtain ⟨j, last, -, hprinted, -, -⟩ := execute_after_decision hnone
  rw [h] at hprinted
  exact ⟨j, printed_of_printedFor j hprinted⟩

theorem found_of_page (j : Subject o c w) (hc : c.page = some page) :
    ∃ body, w.savedPage page = .ok body ∧ j.found = j.pattern.scan body := by
  have hpage := j.page_eq
  unfold pageAt at hpage
  rw [hc] at hpage
  dsimp only at hpage
  rw [readPage_eq] at hpage
  cases hbody : w.savedPage page with
  | error f =>
    rw [hbody] at hpage
    cases hpage
  | ok body =>
    rw [hbody] at hpage
    refine ⟨body, rfl, ?_⟩
    unfold Subject.found
    rw [← Except.ok.inj hpage]

/-- Where a check of a saved page exits with 0, so does a scan of the same page under the same
settings. The lines it prints are the versions that the check has decided on, it warns when there are
none, and before a deployment it prints the one version that the check has told. -/
theorem scan_agrees_with_check (hpage : c.page = some page) (hlayer : v.layer o = w.layer o)
    (hdialect : v.dialect = w.dialect) (hbytes : v.pageBytes page' = w.pageBytes page)
    (h : host.execute ⟨o, .check c⟩ w = (0, w')) :
    ∃ (j : Subject o c w) (lines : List String) (v' : World),
      Printed j j.decision w' ∧ host.execute ⟨o, .scan page'⟩ v = (0, v') ∧
      v'.printed = v.printed ++ lines ∧
      Text.lines? (Text.ofLines lines) = some j.decision.site.versions ∧
      (j.decision.site = .unknown →
        v'.reported = v.reported ++ [⟨.warn, "no version found in " ++ page'.text⟩]) ∧
      (j.decision.site ≠ .unknown → v'.reported = v.reported) ∧
      (j.decision.deploy = true → lines = [j.version]) := by
  obtain ⟨j, hprinted⟩ := subject_of_exit_zero h
  obtain ⟨body, hbody, hfound⟩ := found_of_page j hpage
  have hbody' : v.savedPage page' = .ok body := by
    rw [savedPage_eq_ok_iff, hbytes, ← savedPage_eq_ok_iff]
    exact hbody
  have hpattern : VersionPattern.read v.dialect j.settings.patternSource = .ok j.pattern := by
    rw [hdialect, j.pattern_eq]
  have hscan := scan_run hpattern hbody'
  rw [← hfound] at hscan
  have hperform : (host.perform ⟨o, .scan page'⟩).run v = (host.scan page' j.settings).run v :=
    attempt_bind_ok (settings_of_layer hlayer j.settings_eq)
  have hunknown : j.decision.site = .unknown ↔ j.found = [] := by
    rw [j.decision_eq]
    exact SiteVersion.ofMatches_eq_unknown_iff
  refine ⟨j, j.found, _, hprinted, execute_of_ok (hperform.trans hscan), rfl, ?_, ?_, ?_, ?_⟩
  · rw [j.versions_decision]
    apply Text.lines?_ofLines
    intro line hline
    rw [hfound] at hline
    exact VersionPattern.not_lineFeed_of_mem_scan hline
  · intro hu
    simp [scanReport, hunknown.mp hu]
  · intro hu
    simp [scanReport, mt hunknown.mpr hu]
  · intro hdeploy
    obtain ⟨body', version, hpage', hsingle, -⟩ := j.deploy_decision.mp hdeploy
    have hone : j.found = [version] := by
      unfold Subject.found
      rw [hpage']
      exact hsingle
    unfold Subject.version
    rw [hone]

/-- A check of a file with two versions in it, and a scan of the same bytes from standard input. -/
theorem scan_of_piped_page :
    let page := "Currently 2.3.1. Created\r\n<hr>\rCurrently 2.2.0. Created\n"
    let o : Options := { buildVersion := some "2.4.0" }
    let c : CheckOptions := { page := some ⟨"index.html"⟩ }
    let w : World :=
      { tree := ⟨[(["w"], .directory), (["w", "index.html"], .file (Text.encode page))]⟩
        cwd := ["w"], input := [], git := none, server := ⟨"127.0.0.1", []⟩, clock := ⟨0, 0⟩ }
    let v : World := { w with input := Text.encode page }
    c.page = some ⟨"index.html"⟩ ∧ v.layer o = w.layer o ∧ v.dialect = w.dialect ∧
      v.pageBytes ⟨"-"⟩ = w.pageBytes ⟨"index.html"⟩ ∧ (host.execute ⟨o, .check c⟩ w).1 = 0 ∧
      ∃ (j : Subject o c w) (lines : List String) (v' : World),
        host.execute ⟨o, .scan ⟨"-"⟩⟩ v = (0, v') ∧ v'.printed = lines ∧
        lines = ["2.3.1", "2.2.0"] ∧
        Text.lines? (Text.ofLines lines) = some j.decision.site.versions := by
  intro page o c w v
  have hlayer : v.layer o = w.layer o := rfl
  have hbytes : v.pageBytes ⟨"-"⟩ = w.pageBytes ⟨"index.html"⟩ := by decide +kernel
  have hexit : (host.execute ⟨o, .check c⟩ w).1 = 0 := by decide +kernel
  have hprinted : (host.execute ⟨o, .scan ⟨"-"⟩⟩ v).2.printed = ["2.3.1", "2.2.0"] := by
    decide +kernel
  obtain ⟨j, lines, v', -, hscan, hlines, hread, -⟩ :=
    scan_agrees_with_check (c := c) rfl hlayer rfl hbytes (Prod.ext hexit rfl)
  have hv : v'.printed = lines := hlines
  rw [hscan] at hprinted
  exact ⟨rfl, hlayer, rfl, hbytes, hexit, j, lines, v', hscan, hv, hv.symm.trans hprinted, hread⟩

end World

end PublishGate
