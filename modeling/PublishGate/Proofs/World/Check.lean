import PublishGate.Proofs.Decision.OutputLines
import PublishGate.Proofs.Decision.Report
import PublishGate.Proofs.World.Reading

/-! # What a check that succeeds has done

Settings, build, pattern and page come from different places, and the decision goes to different
places. A check that succeeds has made one decision from all of the former, and all of the latter
carry it. -/

namespace PublishGate

namespace World

/-- The page that a check looks at: a saved one, which has to be readable, or what the server sends,
which may be no page at all. -/
def pageAt (w : World) (url : String) : Option Path → Except Failure (Except FetchError String)
  | some file => ((host.readPage file).run w).1.map .ok
  | none => .ok ((w.server.fetch url).1.page url)

end World

/-- What a check goes by, as its options and the surroundings give it. -/
structure Subject (o : Options) (c : CheckOptions) (w : World) where
  settings : Settings
  build : BuildVersion
  pattern : VersionPattern
  page : Except FetchError String
  settings_eq : (World.host.settings o).run w = (.ok settings, w)
  build_eq : ((World.host.buildVersion o).run w).1 = .ok build
  pattern_eq : VersionPattern.read w.dialect settings.patternSource = .ok pattern
  page_eq : w.pageAt (o.siteUrl settings.docsSite build) c.page = .ok page

namespace Subject

variable {o : Options} {c : CheckOptions} {w : World} (j : Subject o c w)

def url : String :=
  o.siteUrl j.settings.docsSite j.build

def found : List String :=
  match j.page with
  | .ok body => j.pattern.scan body
  | .error _ => []

def warnings : List Event :=
  match j.page with
  | .ok _ => []
  | .error e => [⟨.warn, "could not fetch " ++ j.url ++ ": " ++ e.message⟩]

def gate : Gate :=
  { site := ⟨j.url, j.page⟩, pattern := j.pattern, compare := j.settings.compareMode }

def decision : Decision :=
  (j.gate.evaluate j.build).1

def version : String :=
  match j.found with
  | [v] => v
  | _ => ""

def lines (deploy : Bool) : List String :=
  [c.key j.settings ++ "=" ++ (if deploy then "false" else "true"),
   if deploy then "deploy=true" else "deploy=false",
   "site_version=" ++ j.version]

theorem published_gate : j.gate.published = (j.found, j.warnings) := by
  unfold Gate.published found warnings gate
  dsimp only
  cases j.page <;> rfl

theorem evaluate_gate :
    j.gate.evaluate j.build = (j.decision, j.warnings ++ [⟨.info, j.decision.message⟩]) := by
  simp only [decision, Gate.evaluate, published_gate]

theorem decision_eq :
    j.decision = PublishGate.decision j.url j.build j.found j.settings.compareMode := by
  rw [decision, Gate.evaluate_fst, published_gate]
  rfl

theorem versions_decision : j.decision.site.versions = j.found := by
  rw [decision_eq]
  exact SiteVersion.ofMatches_versions j.found

theorem deploy_decision : j.decision.deploy = true ↔ ∃ body v, j.page = .ok body ∧
    j.pattern.scan body = [v] ∧ j.settings.compareMode.isNewer j.build.text v = true := by
  have hdeploy : j.decision.deploy = true ↔
      ∃ v, j.found = [v] ∧ j.settings.compareMode.isNewer j.build.text v = true := by
    rw [decision_eq]
    simp only [PublishGate.decision]
    cases hs : (SiteVersion.ofMatches j.found).single? with
    | none =>
      have hne : ∀ v, j.found ≠ [v] := fun v hv => by simp [SiteVersion.single?_ofMatches.mpr hv] at hs
      simp [hne]
    | some v => simp [SiteVersion.single?_ofMatches.mp hs]
  rw [hdeploy]
  unfold found
  cases j.page <;> simp

theorem outputLines_decision :
    j.decision.outputLines (c.key j.settings) = j.lines j.decision.deploy := by
  have hversion : j.decision.site.single?.getD "" = j.version := by
    rw [decision_eq, version]
    change (SiteVersion.ofMatches j.found).single?.getD "" = _
    match j.found with
    | [] => rfl
    | [_] => rfl
    | _ :: _ :: _ => rfl
  simp only [Decision.outputLines, Decision.dryDeployFlag, Decision.deployFlag, hversion, lines]
  cases j.decision.deploy <;> rfl

end Subject

/-- A decision stands complete among the printed lines. -/
structure Printed {o : Options} {c : CheckOptions} {w : World} (j : Subject o c w) (d : Decision)
    (w' : World) : Prop where
  text : c.format ≠ some .json → w'.printed = w.printed ++ d.message :: j.lines d.deploy
  json : c.format = some .json → ∃ report, w'.printed = w.printed ++ [Json.prettyText report] ∧
    Decision.ofJson? report = some d ∧ report.field? "dry_deploy" = some (.bool (!d.deploy))

/-- Everything that a check leaves behind carries its decision. -/
structure Delivered {o : Options} {c : CheckOptions} {w : World} (j : Subject o c w)
    (d : Decision) (w' : World) : Prop extends Printed j d w' where
  status : d.message = (SiteVersion.ofMatches j.found).statusLine j.url d.deploy
  reported : w'.reported = w.reported ++ j.warnings ++ [⟨.info, d.message⟩] ++
    (match c.file j.settings with
      | none => []
      | some file => [⟨.info, "decision written to " ++ file.text⟩])
  unwritten : c.file j.settings = none → w'.tree = w.tree
  written : ∀ file, c.file j.settings = some file →
    FileTree.Appended w.tree w'.tree w.cwd file
      (Text.encode (String.join ((j.lines d.deploy).map (· ++ "\n"))))

namespace World

variable {o : Options} {c : CheckOptions} {s : Settings} {w w' w₁ : World}

theorem perform_of_exit_zero {command : Command} (h : host.execute command w = (0, w')) :
    (host.perform command).run w = (.ok (), w') := by
  unfold Host.execute at h
  rw [run_bind] at h
  rcases hp : (host.perform command).run w with ⟨e | ⟨⟩, w₁⟩
  · rw [hp] at h
    cases h
  · rw [hp] at h
    cases h
    rfl

theorem pageAt_asked (w : World) (asked : List GitQuery) (url : String) (page : Option Path) :
    pageAt { w with asked } url page = w.pageAt url page := by
  cases page with
  | none => rfl
  | some file =>
    simp only [pageAt, Host.readPage]
    split
    · simp only [attempt_orFail, host_readInput]
    · simp only [attempt_orFail, host_readText]

/-- A saved page is read without any change, a page of the server with changes to the server. -/
theorem site_eq_ok {url : String} {timeout : Option Duration} {site : Site}
    (h : (host.site url c.page timeout).run w = (.ok site, w')) :
    (∃ page, site = ⟨url, page⟩ ∧ w.pageAt url c.page = .ok page) ∧
      ∃ server requested, w' = { w with server, requested } := by
  unfold Host.site at h
  unfold pageAt
  cases hpage : c.page with
  | none =>
    rw [hpage] at h
    cases h
    exact ⟨⟨_, rfl, rfl⟩, _, _, rfl⟩
  | some file =>
    rw [hpage] at h
    obtain ⟨body, w₁, hread, hsite⟩ := bind_eq_ok h
    have hkeep := keeps_readPage file w
    rw [hread] at hkeep
    obtain rfl : w₁ = w := hkeep
    cases hsite
    refine ⟨⟨_, rfl, ?_⟩, _, _, rfl⟩
    dsimp only
    rw [hread]
    rfl

def printedFor (d : Decision) (key : String) (time : Instant) : ReportFormat → List String
  | .text => d.message :: d.outputLines key
  | .json => [d.reportText time]

theorem host_printDecision (d : Decision) (key : String) (format : ReportFormat) :
    host.printDecision d key format w =
      ((), { w with printed := w.printed ++ printedFor d key w.clock format }) := by
  cases format with
  | text => exact host_printAll _
  | json => simp [Host.printDecision, run_bind, printedFor]

theorem printed_of_printedFor (j : Subject o c w) (h : w'.printed = w.printed ++
      printedFor j.decision (c.key j.settings) w.clock (c.format.getD .text)) :
    Printed j j.decision w' := by
  constructor
  · intro hformat
    have : c.format.getD .text = .text := by
      cases hc : c.format with
      | none => rfl
      | some format => cases format <;> simp_all
    rw [h, this, printedFor, j.outputLines_decision]
  · intro hformat
    rw [hformat] at h
    exact ⟨_, h, j.decision.ofJson?_report _, j.decision.dryDeploy_report _⟩

theorem check_eq_ok (h : (host.check o c s).run w = (.ok (), w')) :
    ∃ build w₁ pattern site w₂,
      (host.buildVersion o).run w = (.ok build, w₁) ∧
      VersionPattern.read w₁.dialect s.patternSource = .ok pattern ∧
      (host.site (o.siteUrl s.docsSite build) c.page s.timeout).run w₁ = (.ok site, w₂) ∧
      let (d, events) := Gate.evaluate { site, pattern, compare := s.compareMode } build
      let w₃ := { w₂ with
        reported := w₂.reported ++ events
        printed := w₂.printed ++ printedFor d (c.key s) w₂.clock (c.format.getD .text) }
      match c.file s with
      | none => w' = w₃
      | some file => ∃ w₄, host.appendDecision file (c.key s) d w₃ = (.ok (), w₄) ∧
          w' = { w₄ with reported :=
            w₄.reported ++ [⟨.info, "decision written to " ++ file.text⟩] } := by
  unfold Host.check at h
  obtain ⟨build, w₁, hbuild, h⟩ := bind_eq_ok h
  obtain ⟨pattern, w₁', hpattern, h⟩ := bind_eq_ok h
  have hp := orFail_eq_ok hpattern
  rw [run_bind, host_parsePattern, run_pure] at hp
  obtain ⟨hread, rfl⟩ := Prod.mk.inj hp
  obtain ⟨site, w₂, hsite, h⟩ := bind_eq_ok h
  refine ⟨build, w₁, pattern, site, w₂, hbuild, hread, hsite, ?_⟩
  obtain ⟨⟨⟩, w₃, hreport, h⟩ := bind_eq_ok h
  rw [attempt_lift, host_reportAll] at hreport
  cases hreport
  obtain ⟨⟨⟩, w₄, hprint, h⟩ := bind_eq_ok h
  rw [attempt_lift, host_printDecision] at hprint
  cases hprint
  dsimp only at h ⊢
  cases hfile : c.file s with
  | none =>
    rw [hfile] at h
    cases h
    rfl
  | some file =>
    rw [hfile] at h
    obtain ⟨⟨⟩, w₅, happend, h⟩ := bind_eq_ok h
    cases h
    exact ⟨w₅, orFail_eq_ok happend, rfl⟩

/-- The decision is delivered by the end of a check, where the questions to git, the server and the
requests to it may differ. -/
theorem delivered_of_end (j : Subject o c w) {asked : List GitQuery} {server : Http.Server}
    {requested : List Http.Request}
    (h : let w₃ : World := { w with
          asked, server, requested
          reported := w.reported ++ (j.warnings ++ [⟨.info, j.decision.message⟩])
          printed := w.printed ++
            printedFor j.decision (c.key j.settings) w.clock (c.format.getD .text) }
      match c.file j.settings with
      | none => w' = w₃
      | some file => ∃ w₄, host.appendDecision file (c.key j.settings) j.decision w₃ =
          (.ok (), w₄) ∧ w' = { w₄ with reported :=
            w₄.reported ++ [⟨.info, "decision written to " ++ file.text⟩] }) :
    Delivered j j.decision w' := by
  have hend : w'.printed = w.printed ++
        printedFor j.decision (c.key j.settings) w.clock (c.format.getD .text) ∧
      w'.reported = w.reported ++ j.warnings ++ [⟨.info, j.decision.message⟩] ++
        (match c.file j.settings with
          | none => []
          | some file => [⟨.info, "decision written to " ++ file.text⟩]) ∧
      (c.file j.settings = none → w'.tree = w.tree) ∧
      ∀ file, c.file j.settings = some file → FileTree.Appended w.tree w'.tree w.cwd file
        (Text.encode (j.decision.outputText (c.key j.settings))) := by
    cases hfile : c.file j.settings with
    | none =>
      simp only [hfile] at h
      subst h
      simp
    | some file =>
      simp only [hfile] at h
      obtain ⟨w₄, happend, rfl⟩ := h
      obtain ⟨tree, rfl, happended⟩ := appendDecision_eq_ok happend
      simpa using happended
  obtain ⟨hprinted, hreported, hunwritten, hwritten⟩ := hend
  refine ⟨printed_of_printedFor j hprinted, ?_, hreported, hunwritten, ?_⟩
  · rw [j.decision_eq]
    rfl
  · intro file hfile
    rw [← j.outputLines_decision]
    exact hwritten file hfile

/-- A check that exits with 0 has decided to deploy exactly when its page shows one version, which
is older than the build, and the decision is the same wherever it goes. -/
theorem check_of_exit_zero (h : host.execute ⟨o, .check c⟩ w = (0, w')) :
    ∃ j : Subject o c w,
      (j.decision.deploy = true ↔ ∃ body v, j.page = .ok body ∧ j.pattern.scan body = [v] ∧
        j.settings.compareMode.isNewer j.build.text v = true) ∧
      j.decision.site.versions = j.found ∧ Delivered j j.decision w' := by
  obtain ⟨s, w₀, hsettings, hcheck⟩ := bind_eq_ok (perform_of_exit_zero h)
  have hkeep := settings_snd o w
  rw [hsettings] at hkeep
  obtain rfl : w₀ = w := hkeep
  obtain ⟨build, w₁, pattern, site, w₂, hbuild, hpattern, hsite, hend⟩ := check_eq_ok hcheck
  have hasked := keeps_buildVersion o w₀
  rw [hbuild] at hasked
  obtain ⟨asked, rfl⟩ := eq_of_unasked hasked
  obtain ⟨⟨page, rfl, hpage⟩, server, requested, rfl⟩ := site_eq_ok hsite
  rw [pageAt_asked] at hpage
  let j : Subject o c w₀ :=
    { settings := s, build, pattern, page, settings_eq := hsettings
      build_eq := congrArg Prod.fst hbuild, pattern_eq := hpattern, page_eq := hpage }
  have heval : Gate.evaluate ⟨⟨o.siteUrl s.docsSite build, page⟩, pattern, s.compareMode⟩ build =
      (j.decision, j.warnings ++ [⟨.info, j.decision.message⟩]) :=
    j.evaluate_gate
  rw [heval] at hend
  exact ⟨j, j.deploy_decision, j.versions_decision, delivered_of_end j hend⟩

/-- A build that is newer than its saved page, with the decision printed and appended to a file. -/
theorem check_of_saved_page :
    let o : Options := { buildVersion := some "2.4.0" }
    let c : CheckOptions := { page := some ⟨"index.html"⟩, output := some ⟨"out/decision"⟩ }
    let w : World :=
      { tree := ⟨[(["w"], .directory),
          (["w", "index.html"], .file (Text.encode "<p>Currently 2.3.1. Created</p>"))]⟩
        cwd := ["w"], input := [], git := none, server := ⟨"127.0.0.1", []⟩, clock := ⟨0, 0⟩ }
    (host.execute ⟨o, .check c⟩ w).1 = 0 ∧ ∃ j : Subject o c w,
      j.lines j.decision.deploy = ["dry_deploy=false", "deploy=true", "site_version=2.3.1"] ∧
        Delivered j j.decision (host.execute ⟨o, .check c⟩ w).2 := by
  intro o c w
  have hexit : (host.execute ⟨o, .check c⟩ w).1 = 0 := by decide +kernel
  have hprinted : (host.execute ⟨o, .check c⟩ w).2.printed.tail =
      ["dry_deploy=false", "deploy=true", "site_version=2.3.1"] := by
    decide +kernel
  obtain ⟨j, -, -, hdelivered⟩ := check_of_exit_zero (Prod.ext hexit rfl)
  have htext := hdelivered.text (by decide)
  rw [htext] at hprinted
  exact ⟨hexit, j, hprinted, hdelivered⟩

end World

end PublishGate
