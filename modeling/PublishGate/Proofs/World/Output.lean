import PublishGate.Proofs.FileTree.Directories
import PublishGate.Proofs.World.Run

/-! # Writing a decision to its file -/

namespace PublishGate.World

variable {w w' : World} {file : Path} {key : String} {d : Decision}

theorem makeDirectories_eq (w : World) (dir : Path) :
    w.makeDirectories dir = ((w.tree.makeDirectories w.cwd dir).1,
      { w with tree := (w.tree.makeDirectories w.cwd dir).2 }) := rfl

theorem append_eq (w : World) (file : Path) (text : String) :
    w.append file text = ((w.tree.append w.cwd file (Text.encode text)).1,
      { w with tree := (w.tree.append w.cwd file (Text.encode text)).2 }) := rfl

def written (file : Path) (answer : Except AppendError Unit × World) :
    Except OutputError Unit × World :=
  match answer with
  | (.ok (), w) => (.ok (), w)
  | (.error (.opening cause), w) => (.error (.opening file cause), w)
  | (.error (.writing cause), w) => (.error (.writing file cause), w)

theorem written_error (file : Path) (cause : AppendError) (w : World) :
    ∃ fault, written file (.error cause, w) = (.error fault, w) := by
  cases cause with
  | opening cause => exact ⟨_, rfl⟩
  | writing cause => exact ⟨_, rfl⟩

theorem write_eq (file : Path) (text : String) (w : World) :
    ((do match ← host.append file text with
        | .ok () => return .ok ()
        | .error (.opening cause) => return .error (.opening file cause)
        | .error (.writing cause) => return .error (.writing file cause) :
      StateM World (Except OutputError Unit)) w) = written file (w.append file text) := by
  rw [run_bind, host_append]
  rcases w.append file text with ⟨(⟨cause⟩ | ⟨cause⟩) | ⟨⟩, w₁⟩ <;> rfl

theorem appendDecision_eq (file : Path) (key : String) (d : Decision) (w : World) :
    host.appendDecision file key d w =
      match file.outputDirectory? with
      | none => written file (w.append file (d.outputText key))
      | some dir =>
        match w.makeDirectories dir with
        | (.error cause, w₁) => (.error (.directory dir cause), w₁)
        | (.ok (), w₁) => written file (w₁.append file (d.outputText key)) := by
  unfold Host.appendDecision
  cases file.outputDirectory? with
  | none => exact write_eq file (d.outputText key) w
  | some dir =>
    dsimp only
    rw [run_bind, host_makeDirectories]
    rcases w.makeDirectories dir with ⟨cause | ⟨⟩, w₁⟩
    · rfl
    · exact write_eq file (d.outputText key) w₁

theorem written_append_cases (w : World) (file : Path) (text : String) :
    (∃ fault, written file (w.append file text) = (.error fault, w)) ∨
      ∃ place node tree, written file (w.append file text) = (.ok (), { w with tree }) ∧
        FileTree.Opens w.tree w.cwd file place ∧
        FileTree.taking (Text.encode text) (w.tree.get? place) = some node ∧
        FileTree.Replaced w.tree tree place node := by
  rcases FileTree.append_cases w.tree w.cwd file (Text.encode text) with
    ⟨cause, he⟩ | ⟨place, node, o, hn⟩
  · rw [append_eq, he]
    exact .inl (written_error file cause w)
  · obtain ⟨tree, ht, hr⟩ := o.append hn
    rw [append_eq, ht]
    exact .inr ⟨place, node, tree, rfl, o, hn, hr⟩

/-- Writing a decision makes the missing directories above the file, and then either fails or
replaces what there is at one place. -/
theorem appendDecision_cases (file : Path) (key : String) (d : Decision) (w : World) :
    ∃ made, FileTree.MakesAbove w.tree made w.cwd file ∧
      ((∃ fault, host.appendDecision file key d w = (.error fault, { w with tree := made })) ∨
        ∃ place node tree, host.appendDecision file key d w = (.ok (), { w with tree }) ∧
          FileTree.Opens made w.cwd file place ∧
          FileTree.taking (Text.encode (d.outputText key)) (made.get? place) = some node ∧
          FileTree.Replaced made tree place node) := by
  rw [appendDecision_eq]
  cases hdir : file.outputDirectory? with
  | none => exact ⟨w.tree, .refl w.tree, written_append_cases w file _⟩
  | some dir =>
    have hmakes : FileTree.MakesAbove w.tree (w.tree.makeDirectories w.cwd dir).2 w.cwd file :=
      FileTree.makesAbove_makeDirectories hdir w.tree
    dsimp only
    rw [makeDirectories_eq]
    generalize w.tree.makeDirectories w.cwd dir = made at hmakes
    obtain ⟨cause | ⟨⟩, made⟩ := made
    · exact ⟨made, hmakes, .inl ⟨_, rfl⟩⟩
    · exact ⟨made, hmakes, written_append_cases { w with tree := made } file _⟩

/-- A decision that is written has its lines at the end of the file, and of the surroundings only
the files are changed. -/
theorem appendDecision_eq_ok (h : host.appendDecision file key d w = (.ok (), w')) :
    ∃ tree, w' = { w with tree } ∧
      FileTree.Appended w.tree tree w.cwd file (Text.encode (d.outputText key)) := by
  obtain ⟨made, hmakes, ⟨fault, he⟩ | ⟨place, node, tree, ho, o, hn, hr⟩⟩ :=
    appendDecision_cases file key d w
  · rw [he] at h
    cases h
  · refine ⟨tree, congrArg Prod.snd (h.symm.trans ho), ?_⟩
    exact (FileTree.appended_of_replaced o hn hr).of_addsDirectories hmakes.toAddsDirectories

/-- Writing a decision changes files at most, however it ends. -/
theorem appendDecision_snd (file : Path) (key : String) (d : Decision) (w : World) :
    ∃ tree, (host.appendDecision file key d w).2 = { w with tree } := by
  obtain ⟨made, -, ⟨fault, he⟩ | ⟨place, node, tree, ho, -⟩⟩ := appendDecision_cases file key d w
  · exact ⟨made, by rw [he]⟩
  · exact ⟨tree, by rw [ho]⟩

end PublishGate.World
