import PublishGate.Proofs.World.Answers
import PublishGate.Proofs.World.Output

/-! # The steps of a check and their faults

What each step comes to is told by the surroundings alone. The equations after the definitions say
that the program's actions come to the same. -/

namespace PublishGate

/-- The steps of a check that may fail, in the order in which they are taken. -/
inductive CheckStep where
  | settings
  | timeout
  | version
  | pattern
  | page
  | output
  deriving DecidableEq, Repr

def CheckStep.inOrder : List CheckStep :=
  [.settings, .timeout, .version, .pattern, .page, .output]

def faultOf {ε α : Type} : Except ε α → Option ε
  | .ok _ => none
  | .error e => some e

namespace FileTree

def writeFault? (t : FileTree) (cwd : Place) (file : Path) : Option OutputError :=
  match t.openFile cwd file with
  | .error cause => some (.opening file cause)
  | .ok (place, t) =>
    match t.get? place with
    | some (.file _) => none
    | some .sink => none
    | _ => some (.writing file .noSpace)

def outputFault? (t : FileTree) (cwd : Place) (file : Path) : Option OutputError :=
  match file.outputDirectory? with
  | none => t.writeFault? cwd file
  | some dir =>
    match t.makeDirectories cwd dir with
    | (.error cause, _) => some (.directory dir cause)
    | (.ok (), t) => t.writeFault? cwd file

end FileTree

namespace World

variable (w : World) (o : Options)

def settingsIn (file : Path) : Except Failure Settings :=
  (Settings.ofContent file (w.tree.readText w.cwd file)).mapError .settings

/-- The settings of the file that the options name, else of the nearest settings file; none are set
where there is no such file. -/
def layer : Except Failure Settings :=
  match o.config with
  | some file =>
    if w.tree.present w.cwd file then w.settingsIn file else .error (.missingSettings file)
  | none =>
    match w.workingDirectory with
    | .error cause => .error (.workingDirectory cause)
    | .ok dir =>
      match (dir.ancestors.map Settings.fileIn).find? (w.tree.present w.cwd) with
      | some file => w.settingsIn file
      | none => .ok {}

def build : Except Failure BuildVersion :=
  match o.buildVersion with
  | some text => .ok ⟨Text.trim text⟩
  | none =>
    ((Revision.ofAnswers o.repoPath (w.answer o.repoPath)).mapError .version).map (·.buildVersion)

def savedPage (page : Path) : Except Failure String :=
  if page.isInput then (FileTree.textOf w.input).mapError .input
  else (w.tree.readText w.cwd page).mapError (.page page)

/-- The settings that a check goes by. A layer that cannot be read sets nothing. -/
def effective : Settings :=
  ((w.layer o).toOption.getD {}).merge (o.settings (o.readTimeout.toOption.getD none))

/-- Why a step fails, if it does. The later ones go by the settings that there are, whether or not
the first two steps succeed. -/
def fault? (c : CheckOptions) : CheckStep → Option Failure
  | .settings => faultOf (w.layer o)
  | .timeout => faultOf o.readTimeout
  | .version => faultOf (w.build o)
  | .pattern => (faultOf (VersionPattern.read w.dialect (w.effective o).patternSource)).map .pattern
  | .page => c.page.bind fun page => faultOf (w.savedPage page)
  | .output => (c.file (w.effective o)).bind fun file =>
      (w.tree.outputFault? w.cwd file).map .output

def firstFault? (c : CheckOptions) : Option Failure :=
  CheckStep.inOrder.findSome? (w.fault? o c)

end World

/-! ## The steps as the program takes them -/

namespace World

variable {w : World} {o : Options} {c : CheckOptions} {file : Path}

theorem loadSettings_eq (hfile : w.tree.present w.cwd file = true) :
    host.loadSettings file w = (Settings.ofContent file (w.tree.readText w.cwd file), w) := by
  unfold Host.loadSettings
  rw [run_bind, host_present]
  dsimp only
  rw [hfile]
  rfl

theorem firstPresent_eq (files : List Path) :
    host.firstPresent files w = (files.find? (w.tree.present w.cwd), w) := by
  induction files with
  | nil => rfl
  | cons file files ih =>
    unfold Host.firstPresent
    rw [run_bind, host_present]
    cases hfile : w.tree.present w.cwd file with
    | true => simp [hfile, run_pure]
    | false => simp [hfile, ih]

theorem fileSettings_eq (o : Options) (w : World) :
    (host.fileSettings o).run w = (w.layer o, w) := by
  unfold Host.fileSettings layer
  cases o.config with
  | some file =>
    dsimp only
    rw [attempt_bind, attempt_lift, host_present]
    dsimp only
    cases hfile : w.tree.present w.cwd file with
    | false => rfl
    | true =>
      simp only [Bool.not_true, Bool.false_eq_true, ↓reduceIte]
      rw [attempt_orFail, loadSettings_eq hfile]
      rfl
  | none =>
    dsimp only
    rw [attempt_bind, attempt_orFail, host_workingDirectory]
    cases w.workingDirectory with
    | error cause => rfl
    | ok dir =>
      dsimp only [Except.mapError]
      rw [attempt_bind, attempt_lift, Host.findSettings, firstPresent_eq]
      dsimp only
      cases hfind : (dir.ancestors.map Settings.fileIn).find? (w.tree.present w.cwd) with
      | none => rfl
      | some file =>
        dsimp only
        rw [attempt_orFail, loadSettings_eq (List.find?_some hfind)]
        rfl

theorem readTimeout_eq (o : Options) (w : World) :
    (Host.orFail id (pure o.readTimeout) : Attempt _).run w = (o.readTimeout, w) := by
  rw [attempt_orFail, run_pure]
  cases o.readTimeout <;> rfl

theorem pattern_eq (s : Settings) (w : World) :
    (host.pattern s).run w =
      ((VersionPattern.read w.dialect s.patternSource).mapError .pattern, w) := by
  rw [Host.pattern, attempt_orFail, run_bind, host_parsePattern, run_pure]
  rfl

theorem readPage_eq (page : Path) (w : World) :
    (host.readPage page).run w = (w.savedPage page, w) := by
  unfold Host.readPage savedPage
  split
  · rw [attempt_orFail, host_readInput]
  · rw [attempt_orFail, host_readText]

theorem buildVersion_fst (o : Options) (w : World) :
    ((host.buildVersion o).run w).1 = w.build o := by
  unfold Host.buildVersion build
  cases o.buildVersion with
  | some text => rfl
  | none =>
    dsimp only
    rw [attempt_bind, attempt_orFail, ask_fst]
    cases Revision.ofAnswers o.repoPath (w.answer o.repoPath) <;> rfl

theorem written_append_fst (w : World) (file : Path) (text : String) :
    (written file (w.append file text)).1 =
      match w.tree.writeFault? w.cwd file with
      | none => .ok ()
      | some cause => .error cause := by
  rw [append_eq]
  unfold FileTree.append FileTree.writeFault?
  cases w.tree.openFile w.cwd file with
  | error e => rfl
  | ok opened =>
    obtain ⟨place, t⟩ := opened
    dsimp only
    cases t.get? place with
    | none => rfl
    | some node => cases node <;> rfl

theorem appendDecision_fst (file : Path) (key : String) (d : Decision) (w : World) :
    (host.appendDecision file key d w).1 =
      match w.tree.outputFault? w.cwd file with
      | none => .ok ()
      | some cause => .error cause := by
  rw [appendDecision_eq]
  unfold FileTree.outputFault?
  cases file.outputDirectory? with
  | none => exact written_append_fst w file _
  | some dir =>
    dsimp only
    rw [makeDirectories_eq]
    rcases w.tree.makeDirectories w.cwd dir with ⟨cause | ⟨⟩, t⟩
    · rfl
    · exact written_append_fst { w with tree := t } file _

theorem appendDecision_run (file : Path) (key : String) (d : Decision) (w : World) :
    ∃ tree, host.appendDecision file key d w =
      (match w.tree.outputFault? w.cwd file with
        | none => .ok ()
        | some cause => .error cause, { w with tree }) := by
  obtain ⟨tree, h⟩ := appendDecision_snd file key d w
  exact ⟨tree, Prod.ext (appendDecision_fst file key d w) h⟩

end World

end PublishGate
