import PublishGate.Proofs.Decision.OutputLines
import PublishGate.Proofs.Text.LineFeeds
import PublishGate.Proofs.World.Steps

/-! # Many decisions in one file

Each run of the program puts its lines behind those of the runs before it and behind whatever else
the file holds. The lines of one run end in a line feed, so that the next run starts a line of its
own. -/

namespace PublishGate

namespace FileTree

/-- The lines of a file with others behind them. Those of a file that ended in a line feed are all
there; an unfinished line now ends as the first of the others does. Either way the file ends in a
line feed. -/
inductive LinesAppended (t t' : FileTree) (cwd : Place) (file : Path) (out : List (List UInt8)) :
    Prop where
  | whole (place : Place) (old new : List UInt8)
      (before : t.get? place = some (.file old) ∨ t.get? place = none ∧ old = [])
      (ended : Text.EndsClosed old)
      (found : t'.find cwd file = .ok (place, .file new))
      (after : Text.lines new = Text.lines old ++ out)
      (ends : Text.EndsClosed new)
  | continued (place : Place) (old new : List UInt8) (front rest : List (List UInt8))
      (tail first : List UInt8)
      (before : t.get? place = some (.file old) ∧ Text.lines old = front ++ [tail])
      (unfinished : ¬ Text.EndsClosed old)
      (output : out = first :: rest)
      (found : t'.find cwd file = .ok (place, .file new))
      (after : Text.lines new = front ++ (tail ++ first) :: rest)
      (ends : Text.EndsClosed new)
  | sink (place : Place) (before : t.get? place = some .sink)
      (found : t'.find cwd file = .ok (place, .sink))

theorem Appended.linesAppended {t t' : FileTree} {cwd : Place} {file : Path}
    {out : List (List UInt8)} (h : Appended t t' cwd file (Text.closed out)) (hne : out ≠ [])
    (hout : ∀ line ∈ out, Text.lineFeed ∉ line) : LinesAppended t t' cwd file out := by
  cases h with
  | sink place before found => exact .sink place before found
  | file place old before found =>
    have hends : Text.EndsClosed (old ++ Text.closed out) := Text.endsClosed_append_closed hne old
    obtain ⟨hwhole, hcontinued⟩ := Text.lines_append_closed hout old
    by_cases hold : Text.EndsClosed old
    · exact .whole place old _ before hold found (hwhole hold) hends
    · obtain ⟨front, tail, hlines, hafter⟩ := hcontinued hold
      obtain ⟨first, rest, hfirst⟩ := List.exists_cons_of_ne_nil hne
      have hbefore : t.get? place = some (.file old) := by
        rcases before with hfile | ⟨-, rfl⟩
        · exact hfile
        · exact absurd (.inl rfl) hold
      exact .continued place old _ front rest tail first ⟨hbefore, hlines⟩ hold hfirst found
        (hafter first rest hfirst) hends

end FileTree

namespace World

open FileTree

variable {w : World} {file : Path} {key : String} {d : Decision} {place : Place} {node node' : Node}
variable {entries : List (String × Decision)} {lead : List UInt8} {before : Option Node}

/-- Decisions are written one after the other, each with its key, up to the first that fails. -/
def appendEach (file : Path) :
    List (String × Decision) → World → Except OutputError Unit × World
  | [], w => (.ok (), w)
  | (key, d) :: entries, w =>
    match host.appendDecision file key d w with
    | (.ok (), w) => appendEach file entries w
    | (.error fault, w) => (.error fault, w)

def outputOf (entries : List (String × Decision)) : List (List UInt8) :=
  entries.flatMap fun (key, d) => (d.outputLines key).map Text.encode

theorem closed_outputOf_cons (key : String) (d : Decision) (entries : List (String × Decision)) :
    Text.closed (outputOf ((key, d) :: entries)) =
      Text.encode (d.outputText key) ++ Text.closed (outputOf entries) := by
  have htext : Text.encode (d.outputText key) = Text.closed ((d.outputLines key).map Text.encode) :=
    Text.encode_closed _
  rw [htext]
  simp [outputOf, Text.closed]

/-- A file that a path leads to takes a decision, and nothing else is changed for it. -/
theorem appendDecision_of_opens (o : Opens w.tree w.cwd file place)
    (hn : w.tree.get? place = some node)
    (ht : taking (Text.encode (d.outputText key)) (some node) = some node') :
    ∃ tree, host.appendDecision file key d w = (.ok (), { w with tree }) ∧
      Replaced w.tree tree place node' := by
  obtain ⟨tree, happend, hr⟩ := o.append (hn ▸ ht)
  have hwritten : written file (w.append file (d.outputText key)) = (.ok (), { w with tree }) := by
    rw [append_eq, happend]
    rfl
  refine ⟨tree, ?_, hr⟩
  rw [appendDecision_eq]
  cases hdir : file.outputDirectory? with
  | none => exact hwritten
  | some dir =>
    obtain ⟨hparent, hdir⟩ := Option.filter_eq_some_iff.mp hdir
    have habove : dir.IsAbove file := ⟨0, by rw [Path.up, hparent]; rfl⟩
    have hne : dir.text ≠ "" := by simpa using hdir
    have hpresent : w.tree.isDirectory w.cwd dir = true :=
      isDirectory_iff.mpr (find_of_begins (o.find hn) (habove.begins hne) hne)
    dsimp only
    rw [makeDirectories_eq, makeDirectories_of_isDirectory hpresent]
    exact hwritten

/-- Once a file has taken bytes it takes all that follows. -/
theorem appendEach_of_opens (o : Opens w.tree w.cwd file place)
    (hn : w.tree.get? place = some node) (hlead : taking lead before = some node) :
    ∃ tree node', appendEach file entries w = (.ok (), { w with tree }) ∧
      taking (lead ++ Text.closed (outputOf entries)) before = some node' ∧
      Replaced w.tree tree place node' := by
  -- the invariant: the node at the place is what there was before with all of `lead` behind it
  induction entries generalizing w lead node with
  | nil =>
    refine ⟨w.tree, node, rfl, ?_, hn, fun _ _ => rfl⟩
    simpa [outputOf, Text.closed] using hlead
  | cons entry entries ih =>
    obtain ⟨key, d⟩ := entry
    obtain ⟨node₁, ht, hboth⟩ := @taking_again _ (Text.encode (d.outputText key)) _ _ hlead
    obtain ⟨tree₁, hstep, hr⟩ := appendDecision_of_opens o hn ht
    have hne : w.tree.get? place ≠ some .directory := by
      rw [hn]
      exact not_directory_of_taking ht
    have o₁ : Opens tree₁ w.cwd file place := o.kept (hr.directory hne)
    obtain ⟨tree, node', hrun, htaking, hr'⟩ :=
      @ih { w with tree := tree₁ } node₁ _ o₁ hr.here hboth
    refine ⟨tree, node', ?_, ?_, hr.trans hr'⟩
    · rw [appendEach, hstep]
      exact hrun
    · rw [closed_outputOf_cons, ← List.append_assoc]
      exact htaking

theorem appendEach_eq_ok (hne : entries ≠ []) (hw : w.tree.outputFault? w.cwd file = none) :
    ∃ tree, appendEach file entries w = (.ok (), { w with tree }) ∧
      Appended w.tree tree w.cwd file (Text.closed (outputOf entries)) := by
  obtain ⟨⟨key, d⟩, entries, rfl⟩ := List.exists_cons_of_ne_nil hne
  have hfst := appendDecision_fst file key d w
  rw [hw] at hfst
  obtain ⟨made, hmakes, ⟨fault, he⟩ | ⟨place, node, tree₁, ho, o, hn, hr⟩⟩ :=
    appendDecision_cases file key d w
  · rw [he] at hfst
    cases hfst
  · -- the first decision makes the directories and the file, the run goes on from there
    have o₁ : Opens tree₁ w.cwd file place := o.kept (hr.directory (not_directory_of_taking hn))
    obtain ⟨tree, node', hrun, htaking, hr'⟩ :=
      @appendEach_of_opens { w with tree := tree₁ } file place node entries _ _ o₁ hr.here hn
    refine ⟨tree, ?_, ?_⟩
    · rw [appendEach, ho]
      exact hrun
    · rw [closed_outputOf_cons]
      exact (appended_of_replaced o htaking (hr.trans hr')).of_addsDirectories
        hmakes.toAddsDirectories

theorem outputOf_ne_nil (h : entries ≠ []) : outputOf entries ≠ [] := by
  obtain ⟨⟨key, d⟩, rest, rfl⟩ := List.exists_cons_of_ne_nil h
  simp [outputOf, Decision.outputLines]

theorem lineFeed_not_mem_outputOf (hkeys : ∀ e ∈ entries, '\n' ∉ e.1.toList)
    (hscans : ∀ e ∈ entries, ∃ (g : Gate) (build : BuildVersion), e.2 = (g.evaluate build).1) :
    ∀ line ∈ outputOf entries, Text.lineFeed ∉ line := by
  intro line hline
  obtain ⟨⟨key, d⟩, he, hmem⟩ := List.mem_flatMap.mp hline
  obtain ⟨text, htext, rfl⟩ := List.mem_map.mp hmem
  obtain ⟨g, build, hd⟩ := hscans (key, d) he
  obtain rfl : d = (g.evaluate build).1 := hd
  apply Text.lineFeed_not_mem_encode
  intro hfeed
  have hfree := Decision.not_isLineFeed_of_mem_outputLines
    (Decision.not_isLineFeed_of_not_mem (hkeys _ he)) (g.not_isLineFeed_of_mem_single build)
    text htext '\n' hfeed
  exact absurd hfree (by decide)

theorem appendEach_fst_iff :
    (appendEach file entries w).1 = .ok () ↔
      entries = [] ∨ w.tree.outputFault? w.cwd file = none := by
  cases entries with
  | nil => simp [appendEach]
  | cons entry rest =>
    obtain ⟨key, d⟩ := entry
    constructor
    · intro h
      by_contra hfault
      obtain ⟨fault, hw⟩ := Option.ne_none_iff_exists'.mp (not_or.mp hfault).2
      have hfst := appendDecision_fst file key d w
      rw [hw] at hfst
      have hstep : host.appendDecision file key d w =
          (.error fault, (host.appendDecision file key d w).2) := Prod.ext hfst rfl
      rw [appendEach, hstep] at h
      cases h
    · rintro (hnil | hw)
      · cases hnil
      · obtain ⟨tree, hrun, -⟩ := appendEach_eq_ok (List.cons_ne_nil (key, d) rest) hw
        rw [hrun]

/-- The lines of many decisions from scanned pages are the last ones of the file, in order, behind
the lines that it had. Only a last line without its line feed does not stay as it was: the first
line of the first decision is written on behind it. -/
theorem lines_of_appendEach (hkeys : ∀ e ∈ entries, '\n' ∉ e.1.toList)
    (hscans : ∀ e ∈ entries, ∃ (g : Gate) (build : BuildVersion), e.2 = (g.evaluate build).1) :
    ((appendEach file entries w).1 = .ok () ↔
        entries = [] ∨ w.tree.outputFault? w.cwd file = none) ∧
      ((appendEach file entries w).1 = .ok () →
        entries = [] ∧ (appendEach file entries w).2 = w ∨
          ∃ tree, (appendEach file entries w).2 = { w with tree } ∧
            LinesAppended w.tree tree w.cwd file (outputOf entries)) := by
  refine ⟨appendEach_fst_iff, ?_⟩
  intro hok
  by_cases hne : entries = []
  · subst hne
    exact .inl ⟨rfl, rfl⟩
  · have hw := (appendEach_fst_iff.mp hok).resolve_left hne
    obtain ⟨tree, hrun, happended⟩ := appendEach_eq_ok hne hw
    refine .inr ⟨tree, by rw [hrun], ?_⟩
    exact happended.linesAppended (outputOf_ne_nil hne) (lineFeed_not_mem_outputOf hkeys hscans)

def gateFor (page : String) : Gate :=
  let anything : Pattern.Expr :=
    .seq .empty (.group 1 (.plus true (.chars (.ofPairs [(0, 0x10FFFF)]))))
  { site := .canned "https://protelis.github.io/wiki" page
    pattern := ⟨"(?s)(.+)", anything, .ofExpr anything⟩ }

/-- Two decisions behind a line of another tool. -/
theorem lines_of_two_decisions :
    let w : World :=
      { tree := ⟨[(["gate.env"], .file (Text.encode "FLAG=1\n"))]⟩
        cwd := [], input := [], git := none, server := ⟨"127.0.0.1", []⟩, clock := ⟨0, 0⟩ }
    let entries := [("dry_deploy", ((gateFor "2.3.1").evaluate ⟨"2.4.0"⟩).1),
      ("skip", ((gateFor "2.3.1").evaluate ⟨"2.3.0"⟩).1)]
    let after := appendEach ⟨"gate.env"⟩ entries w
    (∀ e ∈ entries, '\n' ∉ e.1.toList) ∧
      (∀ e ∈ entries, ∃ (g : Gate) (build : BuildVersion), e.2 = (g.evaluate build).1) ∧
      LinesAppended w.tree after.2.tree w.cwd ⟨"gate.env"⟩ (outputOf entries) ∧
      after.2.tree.readText w.cwd ⟨"gate.env"⟩ =
        .ok ("FLAG=1\ndry_deploy=false\ndeploy=true\nsite_version=2.3.1\n" ++
          "skip=true\ndeploy=false\nsite_version=2.3.1\n") := by
  intro w entries after
  have hkeys : ∀ e ∈ entries, '\n' ∉ e.1.toList := by
    intro e he
    rcases List.mem_pair.mp he with rfl | rfl <;> decide
  have hscans : ∀ e ∈ entries, ∃ (g : Gate) (build : BuildVersion), e.2 = (g.evaluate build).1 := by
    intro e he
    rcases List.mem_pair.mp he with rfl | rfl
    · exact ⟨gateFor "2.3.1", _, rfl⟩
    · exact ⟨gateFor "2.3.1", _, rfl⟩
  have hw : w.tree.outputFault? w.cwd ⟨"gate.env"⟩ = none := by decide +kernel
  obtain ⟨hiff, hlines⟩ := @lines_of_appendEach w ⟨"gate.env"⟩ entries hkeys hscans
  refine ⟨hkeys, hscans, ?_, by decide +kernel⟩
  rcases hlines (hiff.mpr (.inr hw)) with ⟨hnil, -⟩ | ⟨tree, htree, hafter⟩
  · exact absurd hnil (List.cons_ne_nil _ _)
  · rw [htree]
    exact hafter

/-- A line without its line feed is not kept: the flag runs into it. -/
theorem unfinished_line_runs_on :
    let old := Text.encode "FLAG=1"
    let w : World :=
      { tree := ⟨[(["gate.env"], .file old)]⟩
        cwd := [], input := [], git := none, server := ⟨"127.0.0.1", []⟩, clock := ⟨0, 0⟩ }
    let entries := [("dry_deploy", ((gateFor "2.3.1").evaluate ⟨"2.4.0"⟩).1)]
    let after := appendEach ⟨"gate.env"⟩ entries w
    let new := Text.encode "FLAG=1dry_deploy=false\ndeploy=true\nsite_version=2.3.1\n"
    after.1 = .ok () ∧ after.2.tree.find w.cwd ⟨"gate.env"⟩ = .ok (["gate.env"], .file new) ∧
      Text.lines new ≠ Text.lines old ++ outputOf entries := by
  decide +kernel

end World

end PublishGate
