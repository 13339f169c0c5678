import PublishGate.Proofs.World.Output

/-! # What writing a decision leaves alone

A decision goes to the end of one file. Around it only directories above the file come into being,
and only such as were missing. -/

namespace PublishGate.World

open FileTree

/-- A decision that is written stands behind what the file held before, in three lines with a line
feed each, and the paths above the file lead to directories. Every other place is as it was, unless
a missing directory above the file was made there. A decision that is not written leaves every file
as it was and makes no new one, wherever the failure lies. A file is known by its place, since a
path with a missing directory in it may lead to an existing file once that directory is made. -/
theorem appendDecision_frame (w : World) (file : Path) (key : String) (d : Decision) :
    let lines := (d.outputLines key).map (· ++ "\n")
    ∃ tree, (host.appendDecision file key d w).2 = { w with tree } ∧
      ((host.appendDecision file key d w).1 = .ok () →
        Appended w.tree tree w.cwd file (Text.encode (String.join lines)) ∧
          (∀ a, a.IsAbove file → a.text ≠ "" → tree.isDirectory w.cwd a = true) ∧
          ∃ place node, tree.find w.cwd file = .ok (place, node) ∧
            (∀ found, w.tree.find w.cwd file = .ok found → found.1 = place) ∧
            ∀ q, q ≠ place → KeptOrMade w.tree tree w.cwd file q) ∧
      (Blocked w.tree w.cwd file → ∃ fault, (host.appendDecision file key d w).1 = .error fault) ∧
      ∀ fault, (host.appendDecision file key d w).1 = .error fault →
        ∀ q, KeptOrMade w.tree tree w.cwd file q ∧
          ∀ content, tree.get? q = some (.file content) ↔ w.tree.get? q = some (.file content) := by
  intro lines
  obtain ⟨made, hmakes, ⟨fault, he⟩ | ⟨place, node, tree, ho, o, hn, hr⟩⟩ :=
    appendDecision_cases file key d w
  · refine ⟨made, by rw [he], ?_, ?_, ?_⟩
    · intro hok
      rw [he] at hok
      cases hok
    · intro _
      exact ⟨fault, by rw [he]⟩
    · intro fault' _ q
      have hq := hmakes.keptOrMade q
      exact ⟨hq, hq.file_iff⟩
  · have hne : made.get? place ≠ some .directory := not_directory_of_taking hn
    have hfind : tree.find w.cwd file = .ok (place, node) :=
      (o.kept (hr.directory hne)).find hr.here
    have hdirectory : ∀ q, w.tree.get? q = some .directory → tree.get? q = some .directory := by
      intro q hq
      exact hr.directory hne q (hmakes.directory q hq)
    refine ⟨tree, by rw [ho], ?_, ?_, ?_⟩
    · intro _
      refine ⟨?_, ?_, place, node, hfind, ?_, ?_⟩
      · exact (appended_of_replaced o hn hr).of_addsDirectories hmakes.toAddsDirectories
      · intro a ha htext
        exact isDirectory_iff.mpr (find_of_begins hfind (ha.begins htext) htext)
      · intro found hfound
        exact place_of_kept hfound hdirectory hfind
      · intro q hq
        exact (hmakes.keptOrMade q).replaced hr hne hq
    · intro hblocked
      exact absurd hblocked (o.not_blocked hmakes.toAddsDirectories hn hr)
    · intro fault herror
      rw [ho] at herror
      cases herror

/-- The path leads nowhere while there is no directory to go back from. -/
example :
    let w : World :=
      { tree := ⟨[(["gate.env"], .file (Text.encode "FLAG=1\n"))]⟩
        cwd := [], input := [], git := none, server := ⟨"127.0.0.1", []⟩, clock := ⟨0, 0⟩ }
    let d : Decision := decision "https://protelis.github.io/wiki" ⟨"2.4.0"⟩ ["2.3.1"] .semantic
    let tree := (host.appendDecision ⟨"build/../gate.env"⟩ "dry_deploy" d w).2.tree
    w.tree.present w.cwd ⟨"build/../gate.env"⟩ = false ∧
      tree.isDirectory w.cwd ⟨"build"⟩ = true ∧
      tree.readText w.cwd ⟨"gate.env"⟩ =
        .ok "FLAG=1\ndry_deploy=false\ndeploy=true\nsite_version=2.3.1\n" := by
  decide +kernel

end PublishGate.World
