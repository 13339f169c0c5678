import PublishGate.Proofs.Gate.Fetched
import PublishGate.Proofs.World.Check
import PublishGate.Proofs.World.Steps

/-! # How a check ends

A check fails when one of its steps does, and tells the fault of the first of them. Up to the last
step it leaves no trace but that message. No answer of the network is a fault. -/

namespace PublishGate

namespace World

variable {o : Options} {c : CheckOptions} {s : Settings} {w w' w₁ w₂ : World}

/-- How a check ends, by the faults of its steps. -/
structure Ended (o : Options) (c : CheckOptions) (w : World) (code : Nat) (w' : World) : Prop where
  exit : code ≠ 0 ↔ ∃ step, w.fault? o c step ≠ none
  told : ∀ f, w.firstFault? o c = some f → ∃ events,
    w'.reported = w.reported ++ events ++ [⟨.error, f.message⟩] ∧ ∀ e ∈ events, e.level ≠ .error
  quiet : w.firstFault? o c = none → ∃ events,
    w'.reported = w.reported ++ events ∧ ∀ e ∈ events, e.level ≠ .error
  untouched : (∃ step, step ≠ .output ∧ w.fault? o c step ≠ none) →
    w'.printed = w.printed ∧ w'.tree = w.tree ∧ w'.requested = w.requested
  decided : (∀ step, step ≠ .output → w.fault? o c step = none) →
    ∃ j : Subject o c w, Printed j j.decision w' ∧
      (c.page = none → (¬ ∃ body, (w.server.fetch j.url).1.Delivers body) →
        j.decision.deploy = false ∧ ∃ cause events,
          w'.reported =
            w.reported ++ ⟨.warn, "could not fetch " ++ j.url ++ ": " ++ cause⟩ :: events ∧
          ∀ e ∈ events, e.level ≠ .warn)
  network : ∀ server, (host.execute ⟨o, .check c⟩ { w with server }).1 = code

/-! ## Faults -/

def earlyFault? (w : World) (o : Options) (c : CheckOptions) : Option Failure :=
  [.settings, .timeout, .version, .pattern, .page].findSome? (w.fault? o c)

theorem firstFault?_eq (w : World) (o : Options) (c : CheckOptions) :
    w.firstFault? o c = (w.earlyFault? o c).or (w.fault? o c .output) := by
  have horder : CheckStep.inOrder =
      [.settings, .timeout, .version, .pattern, .page] ++ [.output] := rfl
  rw [firstFault?, horder, List.findSome?_append]
  simp [earlyFault?]

theorem earlyFault?_eq_none_iff :
    w.earlyFault? o c = none ↔ ∀ step, step ≠ .output → w.fault? o c step = none := by
  rw [earlyFault?, List.findSome?_eq_none_iff]
  constructor
  · intro h step hstep
    cases step with
    | output => exact absurd rfl hstep
    | settings => exact h _ (by simp)
    | timeout => exact h _ (by simp)
    | version => exact h _ (by simp)
    | pattern => exact h _ (by simp)
    | page => exact h _ (by simp)
  · intro h step hstep
    apply h
    rintro rfl
    simp at hstep

theorem firstFault?_eq_none_iff :
    w.firstFault? o c = none ↔ ∀ step, w.fault? o c step = none := by
  rw [firstFault?_eq, Option.or_eq_none_iff, earlyFault?_eq_none_iff]
  constructor
  · rintro ⟨hearly, houtput⟩ step
    by_cases hstep : step = .output
    · exact hstep ▸ houtput
    · exact hearly step hstep
  · intro h
    exact ⟨fun step _ => h step, h _⟩

/-- The server has no part in any fault. -/
theorem fault?_server (server : Http.Server) (step : CheckStep) :
    fault? { w with server } o c step = w.fault? o c step := by
  have hanswer : ∀ dir, answer { w with server } dir = w.answer dir := by
    intro dir
    funext query
    refine answer_congr ?_ ?_ ?_ query <;> rfl
  cases step with
  | version =>
    simp only [fault?, build, hanswer]
  | settings => rfl
  | timeout => rfl
  | pattern => rfl
  | page => rfl
  | output => rfl

/-! ## Before the last step -/

theorem eq_error_of_faultOf {ε α : Type} {x : Except ε α} {e : ε} (h : faultOf x = some e) :
    x = .error e := by
  cases x with
  | ok a => cases h
  | error e' => rw [Option.some.inj h]

theorem exists_of_faultOf {ε α : Type} {x : Except ε α} (h : faultOf x = none) :
    ∃ a, x = .ok a := by
  cases x with
  | ok a => exact ⟨a, rfl⟩
  | error e => cases h

theorem settings_run_ok {layer : Settings} {timeout : Option Duration}
    (hlayer : w.layer o = .ok layer) (htimeout : o.readTimeout = .ok timeout) :
    (host.settings o).run w = (.ok (w.effective o), w) := by
  have hfile : (host.fileSettings o).run w = (.ok layer, w) := by rw [fileSettings_eq, hlayer]
  have hread : (Host.orFail id (pure o.readTimeout) : Attempt _).run w = (.ok timeout, w) := by
    rw [readTimeout_eq, htimeout]
  unfold Host.settings effective
  rw [attempt_bind_ok hfile, attempt_bind_ok hread, hlayer, htimeout]
  rfl

theorem perform_check (o : Options) (c : CheckOptions) :
    host.perform ⟨o, .check c⟩ = host.settings o >>= fun s => host.check o c s := rfl

theorem buildVersion_run (o : Options) (w : World) :
    ∃ asked, (host.buildVersion o).run w = (w.build o, { w with asked }) := by
  obtain ⟨asked, h⟩ := eq_of_unasked (keeps_buildVersion o w)
  exact ⟨asked, Prod.ext (buildVersion_fst o w) h⟩

theorem settings_run_error_of_layer {f : Failure} (h : w.layer o = .error f) :
    (host.settings o).run w = (.error f, w) := by
  have hfile : (host.fileSettings o).run w = (.error f, w) := by rw [fileSettings_eq, h]
  exact attempt_bind_error hfile

theorem settings_run_error_of_timeout {layer : Settings} {f : Failure}
    (hlayer : w.layer o = .ok layer) (h : o.readTimeout = .error f) :
    (host.settings o).run w = (.error f, w) := by
  have hfile : (host.fileSettings o).run w = (.ok layer, w) := by rw [fileSettings_eq, hlayer]
  have hread : (Host.orFail id (pure o.readTimeout) : Attempt _).run w = (.error f, w) := by
    rw [readTimeout_eq, h]
  unfold Host.settings
  rw [attempt_bind_ok hfile, attempt_bind_error hread]

theorem check_run_error_of_pattern {build : BuildVersion} {cause : PatternError}
    (hbuild : (host.buildVersion o).run w = (.ok build, w₁))
    (h : VersionPattern.read w₁.dialect s.patternSource = .error cause) :
    (host.check o c s).run w = (.error (.pattern cause), w₁) := by
  have hpattern : (host.pattern s).run w₁ = (.error (.pattern cause), w₁) := by
    rw [pattern_eq, h]
    rfl
  unfold Host.check
  rw [attempt_bind_ok hbuild]
  exact attempt_bind_error hpattern

theorem check_run_error_of_page {build : BuildVersion} {pattern : VersionPattern} {page : Path}
    {f : Failure} (hbuild : (host.buildVersion o).run w = (.ok build, w₁))
    (hread : VersionPattern.read w₁.dialect s.patternSource = .ok pattern) (hc : c.page = some page)
    (h : w₁.savedPage page = .error f) : (host.check o c s).run w = (.error f, w₁) := by
  have hpattern : (host.pattern s).run w₁ = (.ok pattern, w₁) := by
    rw [pattern_eq, hread]
    rfl
  have hpage : (host.readPage page).run w₁ = (.error f, w₁) := by rw [readPage_eq, h]
  have hsite : (host.site (o.siteUrl s.docsSite build) c.page s.timeout).run w₁ =
      (.error f, w₁) := by
    rw [hc]
    exact attempt_bind_error hpage
  unfold Host.check
  rw [attempt_bind_ok hbuild]
  dsimp only
  rw [attempt_bind_ok hpattern]
  exact attempt_bind_error hsite

/-- From the settings on, the version is asked for first, then the pattern is read, then the page. -/
theorem check_run_error {f : Failure}
    (h : [CheckStep.version, .pattern, .page].findSome? (w.fault? o c) = some f) :
    ∃ asked, (host.check o c (w.effective o)).run w = (.error f, { w with asked }) := by
  obtain ⟨asked, hbuild⟩ := buildVersion_run o w
  refine ⟨asked, ?_⟩
  cases hversion : w.build o with
  | error e =>
    obtain rfl : e = f := by simpa [fault?, faultOf, hversion] using h
    rw [hversion] at hbuild
    exact attempt_bind_error hbuild
  | ok build =>
    rw [hversion] at hbuild
    cases hpattern : VersionPattern.read w.dialect (w.effective o).patternSource with
    | error cause =>
      obtain rfl : .pattern cause = f := by simpa [fault?, faultOf, hversion, hpattern] using h
      exact check_run_error_of_pattern hbuild hpattern
    | ok pattern =>
      have hpage : w.fault? o c .page = some f := by
        simpa [fault?, faultOf, hversion, hpattern] using h
      obtain ⟨page, hc, hfault⟩ := Option.bind_eq_some_iff.mp hpage
      exact check_run_error_of_page hbuild hpattern hc (eq_error_of_faultOf hfault)

/-- A check that fails before its last step has only asked git. -/
theorem perform_of_earlyFault {f : Failure} (h : w.earlyFault? o c = some f) :
    ∃ asked, (host.perform ⟨o, .check c⟩).run w = (.error f, { w with asked }) := by
  rw [perform_check]
  cases hlayer : w.layer o with
  | error e =>
    obtain rfl : e = f := by simpa [earlyFault?, fault?, faultOf, hlayer] using h
    exact ⟨w.asked, attempt_bind_error (settings_run_error_of_layer hlayer)⟩
  | ok layer =>
    cases htimeout : o.readTimeout with
    | error e =>
      obtain rfl : e = f := by simpa [earlyFault?, fault?, faultOf, hlayer, htimeout] using h
      exact ⟨w.asked, attempt_bind_error (settings_run_error_of_timeout hlayer htimeout)⟩
    | ok timeout =>
      rw [attempt_bind_ok (settings_run_ok hlayer htimeout)]
      exact check_run_error (by simpa [earlyFault?, fault?, faultOf, hlayer, htimeout] using h)

/-! ## The last step -/

def announced (j : Subject o c w) (w₂ : World) : World :=
  { w₂ with
    reported := w₂.reported ++ (j.warnings ++ [⟨.info, j.decision.message⟩])
    printed := w₂.printed ++
      printedFor j.decision (c.key j.settings) w₂.clock (c.format.getD .text) }

def concluded (j : Subject o c w) (w₂ : World) : Except Failure Unit × World :=
  match c.file j.settings with
  | none => (.ok (), announced j w₂)
  | some file =>
    match host.appendDecision file (c.key j.settings) j.decision (announced j w₂) with
    | (.ok (), w₄) => (.ok (), { w₄ with
        reported := w₄.reported ++ [⟨.info, "decision written to " ++ file.text⟩] })
    | (.error cause, w₄) => (.error (.output cause), w₄)

theorem check_run {j : Subject o c w}
    (hbuild : (host.buildVersion o).run w = (.ok j.build, w₁))
    (hsite : (host.site j.url c.page j.settings.timeout).run w₁ = (.ok ⟨j.url, j.page⟩, w₂)) :
    (host.check o c j.settings).run w = concluded j w₂ := by
  have hdialect : w₁.dialect = w.dialect := by
    simpa only [hbuild] using keeps_dialect_buildVersion o w
  have hpattern : (host.pattern j.settings).run w₁ = (.ok j.pattern, w₁) := by
    rw [pattern_eq, hdialect, j.pattern_eq]
    rfl
  have hevaluate : Gate.evaluate ⟨⟨j.url, j.page⟩, j.pattern, j.settings.compareMode⟩ j.build =
      (j.decision, j.warnings ++ [⟨.info, j.decision.message⟩]) := j.evaluate_gate
  unfold Subject.url at hsite hevaluate
  unfold Host.check
  rw [attempt_bind_ok hbuild]
  dsimp only
  rw [attempt_bind_ok hpattern, attempt_bind_ok hsite, hevaluate]
  dsimp only
  rw [attempt_bind, attempt_lift, host_reportAll]
  dsimp only
  rw [attempt_bind, attempt_lift, host_printDecision]
  dsimp only
  unfold concluded
  cases c.file j.settings with
  | none => rfl
  | some file =>
    dsimp only
    rw [attempt_bind, attempt_orFail]
    unfold announced
    rcases host.appendDecision file (c.key j.settings) j.decision _ with ⟨cause | ⟨⟩, w₄⟩
    · rfl
    · rfl

theorem pageAt_of_page_ok (url : String) (h : w.fault? o c .page = none) :
    ∃ answer, w.pageAt url c.page = .ok answer := by
  unfold pageAt
  cases hc : c.page with
  | none => exact ⟨_, rfl⟩
  | some page =>
    have hread : faultOf (w.savedPage page) = none := by simpa [fault?, hc] using h
    obtain ⟨body, hbody⟩ := exists_of_faultOf hread
    refine ⟨.ok body, ?_⟩
    dsimp only
    rw [readPage_eq, hbody]
    rfl

theorem site_run {url : String} {page : Option Path} {answer : Except FetchError String}
    (h : w.pageAt url page = .ok answer) (timeout : Option Duration) (asked : List GitQuery) :
    ∃ server requested, (host.site url page timeout).run { w with asked } =
      (.ok ⟨url, answer⟩, { w with asked, server, requested }) := by
  unfold pageAt at h
  cases page with
  | none =>
    obtain rfl := Except.ok.inj h
    exact ⟨_, _, rfl⟩
  | some file =>
    dsimp only at h
    rw [readPage_eq] at h
    cases hbody : w.savedPage file with
    | error f =>
      rw [hbody] at h
      cases h
    | ok body =>
      rw [hbody] at h
      obtain rfl := Except.ok.inj h
      have hread : (host.readPage file).run { w with asked } = (.ok body, { w with asked }) := by
        rw [readPage_eq]
        exact Prod.ext hbody rfl
      refine ⟨w.server, w.requested, ?_⟩
      unfold Host.site
      dsimp only
      rw [attempt_bind_ok hread]
      rfl

/-- Where no step before the last one fails, there is all that a check goes by. -/
theorem exists_subject (h : w.earlyFault? o c = none) :
    ∃ j : Subject o c w, j.settings = w.effective o := by
  rw [earlyFault?_eq_none_iff] at h
  obtain ⟨layer, hlayer⟩ := exists_of_faultOf (h .settings (by simp))
  obtain ⟨timeout, htimeout⟩ := exists_of_faultOf (h .timeout (by simp))
  obtain ⟨build, hversion⟩ := exists_of_faultOf (h .version (by simp))
  obtain ⟨pattern, hpattern⟩ :=
    exists_of_faultOf (Option.map_eq_none_iff.mp (h .pattern (by simp)))
  obtain ⟨answer, hpage⟩ := pageAt_of_page_ok (o.siteUrl (w.effective o).docsSite build)
    (h .page (by simp))
  have hbuild : ((host.buildVersion o).run w).1 = .ok build := by rw [buildVersion_fst, hversion]
  exact ⟨⟨_, build, pattern, answer, settings_run_ok hlayer htimeout, hbuild, hpattern, hpage⟩, rfl⟩

/-- A check that does not fail before its last step gets as far as its decision. -/
theorem perform_of_subject (j : Subject o c w) :
    ∃ (asked : List GitQuery) (server : Http.Server) (requested : List Http.Request),
      (host.perform ⟨o, .check c⟩).run w = concluded j { w with asked, server, requested } := by
  obtain ⟨asked, hbuild⟩ := buildVersion_run o w
  have hversion : w.build o = .ok j.build := by
    rw [← buildVersion_fst]
    exact j.build_eq
  rw [hversion] at hbuild
  obtain ⟨server, requested, hsite⟩ := site_run j.page_eq j.settings.timeout asked
  refine ⟨asked, server, requested, ?_⟩
  rw [perform_check, attempt_bind_ok j.settings_eq]
  exact check_run hbuild hsite

/-- The last step may change files, and adds to what is reported. -/
theorem concluded_eq (j : Subject o c w) (w₂ : World) (hsettings : j.settings = w.effective o)
    (htree : w₂.tree = w.tree) (hcwd : w₂.cwd = w.cwd) :
    ∃ tree, match w.fault? o c .output with
      | none => ∃ events, (∀ e ∈ events, e.level = .info) ∧ concluded j w₂ =
          (.ok (), { announced j w₂ with tree, reported := (announced j w₂).reported ++ events })
      | some f => concluded j w₂ = (.error f, { announced j w₂ with tree }) := by
  unfold fault? concluded
  rw [← hsettings]
  cases c.file j.settings with
  | none => exact ⟨w₂.tree, [], by simp, by simp [announced]⟩
  | some file =>
    obtain ⟨tree, happend⟩ :=
      appendDecision_run file (c.key j.settings) j.decision (announced j w₂)
    have hfault : (announced j w₂).tree.outputFault? (announced j w₂).cwd file =
        w.tree.outputFault? w.cwd file := by
      unfold announced
      rw [htree, hcwd]
    rw [hfault] at happend
    refine ⟨tree, ?_⟩
    dsimp only [Option.bind_some]
    rw [happend]
    cases w.tree.outputFault? w.cwd file with
    | none => exact ⟨[⟨.info, "decision written to " ++ file.text⟩], by simp, rfl⟩
    | some cause => rfl

/-! ## The whole check -/

theorem execute_of_ok {command : Command} (h : (host.perform command).run w = (.ok (), w')) :
    host.execute command w = (0, w') := by
  unfold Host.execute
  rw [run_bind, h]
  rfl

theorem execute_of_error {command : Command} {f : Failure}
    (h : (host.perform command).run w = (.error f, w')) :
    host.execute command w =
      (1, { w' with reported := w'.reported ++ [⟨.error, f.message⟩] }) := by
  unfold Host.execute
  rw [run_bind, h]
  rfl

theorem execute_of_earlyFault {f : Failure} (h : w.earlyFault? o c = some f) :
    ∃ asked, host.execute ⟨o, .check c⟩ w =
      (1, { w with asked, reported := w.reported ++ [⟨.error, f.message⟩] }) := by
  obtain ⟨asked, hperform⟩ := perform_of_earlyFault h
  exact ⟨asked, execute_of_error hperform⟩

theorem execute_of_no_earlyFault (h : w.earlyFault? o c = none) :
    ∃ (j : Subject o c w) (asked : List GitQuery) (server : Http.Server)
      (requested : List Http.Request) (tree : FileTree),
      let w₃ := announced j { w with asked, server, requested }
      match w.fault? o c .output with
      | none => ∃ events, (∀ e ∈ events, e.level = .info) ∧ host.execute ⟨o, .check c⟩ w =
          (0, { w₃ with tree, reported := w₃.reported ++ events })
      | some f => host.execute ⟨o, .check c⟩ w =
          (1, { w₃ with tree, reported := w₃.reported ++ [⟨.error, f.message⟩] }) := by
  obtain ⟨j, hsettings⟩ := exists_subject h
  obtain ⟨asked, server, requested, hperform⟩ := perform_of_subject j
  obtain ⟨tree, hend⟩ := concluded_eq j { w with asked, server, requested } hsettings rfl rfl
  refine ⟨j, asked, server, requested, tree, ?_⟩
  cases hfault : w.fault? o c .output with
  | none =>
    rw [hfault] at hend
    obtain ⟨events, hlevel, hend⟩ := hend
    exact ⟨events, hlevel, execute_of_ok (hperform.trans hend)⟩
  | some f =>
    rw [hfault] at hend
    exact execute_of_error (hperform.trans hend)

theorem execute_fst (o : Options) (c : CheckOptions) (w : World) :
    (host.execute ⟨o, .check c⟩ w).1 = if (w.firstFault? o c).isSome then 1 else 0 := by
  rw [firstFault?_eq]
  cases hearly : w.earlyFault? o c with
  | some f =>
    obtain ⟨asked, h⟩ := execute_of_earlyFault hearly
    simp [h]
  | none =>
    obtain ⟨j, asked, server, requested, tree, h⟩ := execute_of_no_earlyFault hearly
    cases hfault : w.fault? o c .output with
    | none =>
      rw [hfault] at h
      obtain ⟨events, -, h⟩ := h
      simp [h]
    | some f =>
      rw [hfault] at h
      simp [h]

theorem firstFault?_server (server : Http.Server) :
    firstFault? { w with server } o c = w.firstFault? o c := by
  have hfault : fault? { w with server } o c = w.fault? o c := funext (fault?_server server)
  rw [firstFault?, hfault, firstFault?]

theorem execute_ne_zero_iff :
    (host.execute ⟨o, .check c⟩ w).1 ≠ 0 ↔ ∃ step, w.fault? o c step ≠ none := by
  have hnone : (host.execute ⟨o, .check c⟩ w).1 = 0 ↔ w.firstFault? o c = none := by
    rw [execute_fst]
    cases w.firstFault? o c <;> simp
  rw [Ne, hnone, firstFault?_eq_none_iff, not_forall]

theorem level_of_mem_warnings (j : Subject o c w) {e : Event} (he : e ∈ j.warnings) :
    e.level = .warn := by
  unfold Subject.warnings at he
  cases hpage : j.page with
  | ok body => simp [hpage] at he
  | error cause =>
    rw [hpage] at he
    obtain rfl := List.mem_singleton.mp he
    rfl

/-- A page of the network that does not come: a dry run and one warning. -/
theorem dryRun_of_undelivered (j : Subject o c w) (hc : c.page = none)
    (h : ¬ ∃ body, (w.server.fetch j.url).1.Delivers body) :
    j.decision.deploy = false ∧
      ∃ cause, j.warnings = [⟨.warn, "could not fetch " ++ j.url ++ ": " ++ cause⟩] := by
  have hpage : j.page = (w.server.fetch j.url).1.page j.url := by
    have hpage := j.page_eq
    rw [hc] at hpage
    exact (Except.ok.inj hpage).symm
  cases hanswer : (w.server.fetch j.url).1.page j.url with
  | ok body => exact absurd ⟨body, HttpOutcome.page_eq_ok_iff.mp hanswer⟩ h
  | error e =>
    rw [hanswer] at hpage
    constructor
    · rw [Bool.eq_false_iff]
      intro hdeploy
      obtain ⟨body, v, hbody, -⟩ := j.deploy_decision.mp hdeploy
      simp [hpage] at hbody
    · refine ⟨e.message, ?_⟩
      unfold Subject.warnings
      rw [hpage]

theorem ended_of_earlyFault {f : Failure} (h : w.earlyFault? o c = some f) :
    Ended o c w (host.execute ⟨o, .check c⟩ w).1 (host.execute ⟨o, .check c⟩ w).2 := by
  obtain ⟨asked, hrun⟩ := execute_of_earlyFault h
  have hfirst : w.firstFault? o c = some f := by
    rw [firstFault?_eq, h]
    rfl
  constructor
  · exact execute_ne_zero_iff
  · intro f' hf'
    obtain rfl : f = f' := Option.some.inj (hfirst.symm.trans hf')
    exact ⟨[], by simp [hrun], by simp⟩
  · intro hnone
    simp [hnone] at hfirst
  · intro _
    rw [hrun]
    exact ⟨rfl, rfl, rfl⟩
  · intro hearly
    simp [earlyFault?_eq_none_iff.mpr hearly] at h
  · intro server
    rw [execute_fst, execute_fst, firstFault?_server]

/-- A check that gets as far as its decision reports it and prints it. What it reports after that
is its fault if there is one, else no error. -/
theorem execute_after_decision (h : w.earlyFault? o c = none) :
    ∃ (j : Subject o c w) (last : List Event),
      (host.execute ⟨o, .check c⟩ w).2.reported =
        w.reported ++ (j.warnings ++ [⟨.info, j.decision.message⟩]) ++ last ∧
      (host.execute ⟨o, .check c⟩ w).2.printed = w.printed ++
        printedFor j.decision (c.key j.settings) w.clock (c.format.getD .text) ∧
      (w.firstFault? o c = none → ∀ e ∈ last, e.level = .info) ∧
      ∀ f, w.firstFault? o c = some f → last = [⟨.error, f.message⟩] := by
  obtain ⟨j, asked, server, requested, tree, hrun⟩ := execute_of_no_earlyFault h
  have hfirst : w.firstFault? o c = w.fault? o c .output := by
    rw [firstFault?_eq, h]
    rfl
  refine ⟨j, ?_⟩
  rw [hfirst]
  cases hfault : w.fault? o c .output with
  | none =>
    rw [hfault] at hrun
    obtain ⟨events, hlevel, hrun⟩ := hrun
    exact ⟨events, by rw [hrun]; rfl, by rw [hrun]; rfl, fun _ => hlevel, by simp⟩
  | some f =>
    rw [hfault] at hrun
    exact ⟨[⟨.error, f.message⟩], by rw [hrun]; rfl, by rw [hrun]; rfl, by simp, by simp⟩

theorem ended_of_no_earlyFault (h : w.earlyFault? o c = none) :
    Ended o c w (host.execute ⟨o, .check c⟩ w).1 (host.execute ⟨o, .check c⟩ w).2 := by
  obtain ⟨j, last, hreported, hprinted, hquiet, htold⟩ := execute_after_decision h
  have hevents : ∀ e ∈ j.warnings ++ [⟨.info, j.decision.message⟩], e.level ≠ .error := by
    intro e he
    rcases List.mem_append.mp he with he | he
    · simp [level_of_mem_warnings j he]
    · simp [List.mem_singleton.mp he]
  constructor
  · exact execute_ne_zero_iff
  · intro f hf
    refine ⟨_, ?_, hevents⟩
    rw [hreported, htold f hf]
  · intro hnone
    refine ⟨_, by rw [hreported, List.append_assoc], ?_⟩
    intro e he
    rcases List.mem_append.mp he with he | he
    · exact hevents e he
    · simp [hquiet hnone e he]
  · rintro ⟨step, hstep, hfault⟩
    exact absurd (earlyFault?_eq_none_iff.mp h step hstep) hfault
  · intro _
    refine ⟨j, printed_of_printedFor j hprinted, ?_⟩
    intro hc hundelivered
    obtain ⟨hdeploy, cause, hwarnings⟩ := dryRun_of_undelivered j hc hundelivered
    refine ⟨hdeploy, cause, ⟨.info, j.decision.message⟩ :: last, ?_, ?_⟩
    · rw [hreported, hwarnings]
      simp
    · intro e he
      rcases List.mem_cons.mp he with rfl | he
      · simp
      · cases hf : w.firstFault? o c with
        | none => simp [hquiet hf e he]
        | some f =>
          rw [htold f hf] at he
          simp [List.mem_singleton.mp he]
  · intro server
    rw [execute_fst, execute_fst, firstFault?_server]

/-- A check fails exactly when one of its steps does, with the fault of the first of them. Before
the last step there is nothing to be seen of it, and at the last step the decision is complete. -/
theorem check_ended (o : Options) (c : CheckOptions) (w : World) :
    Ended o c w (host.execute ⟨o, .check c⟩ w).1 (host.execute ⟨o, .check c⟩ w).2 := by
  cases h : w.earlyFault? o c with
  | some f => exact ended_of_earlyFault h
  | none => exact ended_of_no_earlyFault h

end World

end PublishGate
