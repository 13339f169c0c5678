import PublishGate.Proofs.FileTree.Directories
import PublishGate.Proofs.Revision.Inquiry
import PublishGate.Proofs.World.Reading

/-! # What git tells about a directory

Git can be run where there is such a program and such a directory, and asking changes neither. So
each question has one answer, and the state of the sources is a matter of four of them. -/

namespace PublishGate.World

open Revision

variable {w : World} {dir : Path} {table : GitQuery → GitReply}

def answer (w : World) (dir : Path) (query : GitQuery) : GitAnswer :=
  (w.ask dir query).1

theorem answer_congr {w' : World} (htree : w'.tree = w.tree) (hcwd : w'.cwd = w.cwd)
    (hgit : w'.git = w.git) (query : GitQuery) : w'.answer dir query = w.answer dir query := by
  unfold answer ask
  rw [htree, hcwd, hgit]
  split
  · rfl
  · split
    · rfl
    · split <;> rfl

theorem ask_of_table (hdir : w.tree.isDirectory w.cwd dir = true) (hgit : w.git = some table)
    (query : GitQuery) :
    w.ask dir query = (.ok (table query), { w with asked := w.asked ++ [query] }) := by
  obtain ⟨place, hfind⟩ := FileTree.isDirectory_iff.mp hdir
  simp [ask, hfind, hgit]

theorem ask_of_not_runnable (h : w.tree.isDirectory w.cwd dir = false ∨ w.git = none)
    (query : GitQuery) : ∃ e, w.ask dir query = (.error e, w) := by
  unfold ask
  cases hfind : w.tree.find w.cwd dir with
  | error e => exact ⟨e, rfl⟩
  | ok found =>
    obtain ⟨place, node⟩ := found
    dsimp only
    by_cases hnode : node = .directory
    · obtain hgit : w.git = none := by
        refine h.resolve_left ?_
        rw [Bool.not_eq_false, FileTree.isDirectory_iff]
        exact ⟨place, hnode ▸ hfind⟩
      rw [if_neg (not_not_intro hnode), hgit]
      exact ⟨_, rfl⟩
    · exact ⟨_, if_pos hnode⟩

theorem runnable_cases (w : World) (dir : Path) :
    (w.tree.isDirectory w.cwd dir = false ∨ w.git = none) ∨
      ∃ table, w.tree.isDirectory w.cwd dir = true ∧ w.git = some table := by
  cases w.tree.isDirectory w.cwd dir <;> cases w.git <;> simp

theorem answer_of_table (hdir : w.tree.isDirectory w.cwd dir = true) (hgit : w.git = some table) :
    w.answer dir = fun query => .ok (table query) := by
  funext query
  rw [answer, ask_of_table hdir hgit]

/-- Git keeps to its replies, and the questions to it are the only thing that changes. -/
theorem answers_of_table (hdir : w.tree.isDirectory w.cwd dir = true) (hgit : w.git = some table) :
    Answers (host.git dir) (fun query => .ok (table query))
      (fun asked => { w with asked := w.asked ++ asked }) := by
  intro query before
  have hask := ask_of_table (w := { w with asked := w.asked ++ before }) hdir hgit query
  rw [List.append_assoc] at hask
  exact hask

theorem answers_of_not_runnable (h : w.tree.isDirectory w.cwd dir = false ∨ w.git = none) :
    Answers (host.git dir) (w.answer dir) (fun _ => w) := by
  intro query before
  obtain ⟨e, he⟩ := ask_of_not_runnable h query
  rw [host_git, answer, he]

/-- Where git cannot be run there is no repository, and nothing is on record. -/
theorem run_ask_of_not_runnable (h : w.tree.isDirectory w.cwd dir = false ∨ w.git = none) :
    (Revision.ask dir (host.git dir)).run w = (.error (.notRepository dir), w) := by
  obtain ⟨asked, hask, hinquiry⟩ := inquiry_of_ask dir (answers_of_not_runnable h)
  have hinside : ¬ (w.answer dir .inside).Succeeds := by
    obtain ⟨e, he⟩ := ask_of_not_runnable h .inside
    rw [answer, he]
    rintro ⟨r, hr, -⟩
    cases hr
  have first : FirstFailure (w.answer dir) [] .inside := ⟨by decide, by simp, hinside⟩
  rw [(hinquiry.of_firstFailure first).2] at hask
  exact hask

theorem ask_fst (dir : Path) (w : World) :
    (Revision.ask dir (host.git dir) w).1 = ofAnswers dir (w.answer dir) := by
  rcases w.runnable_cases dir with hrun | ⟨table, hdir, hgit⟩
  · obtain ⟨asked, hask, -⟩ := inquiry_of_ask dir (answers_of_not_runnable hrun)
    rw [hask]
  · obtain ⟨asked, hask, -⟩ := inquiry_of_ask dir (answers_of_table hdir hgit)
    rw [List.append_nil] at hask
    rw [hask, answer_of_table hdir hgit]

/-- The state of the sources comes from four commands in a fixed order. The first of the three
required ones that cannot be run or fails ends the inquiry, and the error tells which one it was;
what the last one says is never a fault. -/
theorem revision_from_commands (dir : Path) :
    GitQuery.inOrder.map GitQuery.commandLine =
        ["rev-parse --is-inside-work-tree", "rev-parse --short=7 HEAD", "status --porcelain",
          "describe --tags --long --abbrev=7"] ∧
      (∀ query answer, let fault := GitAnswer.fault dir query answer
        (query = .inside → fault.message = "not a git repository: " ++ dir.text) ∧
          (query ≠ .inside → query.title.toList <:+: fault.message.toList)) ∧
      (∀ answer, ∃ asked result,
        (Revision.ask dir (recorded answer)).run [] = (result, asked) ∧
          AskedInOrder dir answer asked result) ∧
      ∀ w : World,
        (w.tree.isDirectory w.cwd dir = false ∨ w.git = none →
          (Revision.ask dir (host.git dir)).run w = (.error (.notRepository dir), w)) ∧
        ∀ table, w.tree.isDirectory w.cwd dir = true → w.git = some table →
          ∃ asked result,
            (Revision.ask dir (host.git dir)).run w =
              (result, { w with asked := w.asked ++ asked }) ∧
            AskedInOrder dir (fun query => .ok (table query)) asked result ∧
            ((∃ r, result = .ok r) ↔ ∀ query ∈ GitQuery.required, (table query).code = 0) ∧
            ∀ r, result = .ok r → Tells table r := by
  refine ⟨by decide, fun query answer => GitAnswer.message_fault dir query answer, ?_, ?_⟩
  · intro answer
    obtain ⟨asked, hask, hinquiry⟩ := inquiry_of_ask dir (answers_recorded answer)
    exact ⟨asked, _, hask, hinquiry.askedInOrder⟩
  · intro w
    refine ⟨run_ask_of_not_runnable, ?_⟩
    intro table hdir hgit
    obtain ⟨asked, hask, hinquiry⟩ := inquiry_of_ask dir (answers_of_table hdir hgit)
    rw [List.append_nil] at hask
    refine ⟨asked, _, hask, hinquiry.askedInOrder, ?_, fun r hr => hinquiry.tells hr⟩
    rw [hinquiry.exists_ok_iff rfl]
    simp only [GitAnswer.succeeds_ok_iff]

/-- The status cannot be told, so that the tag there is does not matter. -/
theorem revision_stops_at_status :
    let table : GitQuery → GitReply := fun
      | .status => ⟨128, [], Text.encode "fatal: bad index\n"⟩
      | .describe => ⟨0, Text.encode "v2.4.0-0-g0a1b2c3\n", []⟩
      | _ => ⟨0, Text.encode "0a1b2c3\n", []⟩
    let w : World :=
      { tree := ⟨[(["w"], .directory)]⟩
        cwd := ["w"], input := [], git := some table, server := ⟨"127.0.0.1", []⟩, clock := ⟨0, 0⟩ }
    w.tree.isDirectory w.cwd ⟨"."⟩ = true ∧ w.git = some table ∧
      FirstFailure (fun query => .ok (table query)) [.inside, .head] .status ∧
      (Revision.ask ⟨"."⟩ (host.git ⟨"."⟩)).run w =
        (.error (.failed .status "fatal: bad index"),
          { w with asked := [.inside, .head, .status] }) := by
  intro table w
  have hdir : w.tree.isDirectory w.cwd ⟨"."⟩ = true := by decide
  have first : FirstFailure (fun query => .ok (table query)) [.inside, .head] .status :=
    ⟨by decide, by simp [GitAnswer.succeeds_ok_iff, table],
      by simp [GitAnswer.succeeds_ok_iff, table]⟩
  obtain ⟨-, -, -, h⟩ := revision_from_commands ⟨"."⟩
  obtain ⟨asked, result, hask, hlaw, -⟩ := (h w).2 table hdir rfl
  obtain ⟨rfl, rfl⟩ := hlaw.stops _ _ first
  have hfault : GitAnswer.fault ⟨"."⟩ .status (.ok (table .status)) =
      .failed .status "fatal: bad index" := by
    decide +kernel
  rw [hfault] at hask
  exact ⟨hdir, rfl, first, hask⟩

end PublishGate.World
