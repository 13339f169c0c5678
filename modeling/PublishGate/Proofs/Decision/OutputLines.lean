import PublishGate.Gate
import PublishGate.Proofs.Decision.StatusLine
import PublishGate.Proofs.Page.Lines
import PublishGate.Proofs.World.Output

/-! # The lines for the publishing task

Whatever a page shows, a decision leaves three lines, from which the publishing task reads what was
decided. -/

namespace PublishGate

namespace Gate

/-- A version that the gate finds has no line end in it. -/
theorem not_lineEnd_of_mem_published {g : Gate} {v : String} (hv : v ∈ g.published.1) {c : Char}
    (hc : c ∈ v.toList) : VersionPattern.isLineEnd c = false := by
  unfold published at hv
  split at hv
  · exact VersionPattern.not_lineEnd_of_mem_scan hv hc
  · simp at hv

theorem evaluate_fst (g : Gate) (build : BuildVersion) :
    (g.evaluate build).1 = decision g.site.url build g.published.1 g.compare := rfl

end Gate

namespace Decision

def isLineFeed (c : Char) : Bool :=
  c = '\n'

def readFlag? (s : List Char) : Option Bool :=
  if s = "true".toList then some true
  else if s = "false".toList then some false
  else none

def readOutput? (text : String) : Option (Bool × String) :=
  match text.toList.splitOnP isLineFeed with
  | [_, deploy, version, []] => do
    let flag ← ("deploy=".toList.isPrefixOf? deploy).bind readFlag?
    let version ← "site_version=".toList.isPrefixOf? version
    return (flag, String.ofList version)
  | _ => none

theorem isPrefixOf?_append (lead s : List Char) : lead.isPrefixOf? (lead ++ s) = some s :=
  List.isPrefixOf?_eq_some_iff_append_eq.mpr rfl

theorem readFlag?_flag (b : Bool) : readFlag? (flag b).toList = some b := by
  cases b <;> decide

theorem not_isLineFeed_flag (b : Bool) : ∀ c ∈ (flag b).toList, isLineFeed c = false := by
  cases b <;> simp [flag, isLineFeed]

theorem outputText_eq (d : Decision) (key : String) :
    d.outputText key =
      key ++ "=" ++ flag (!d.deploy) ++ "\n" ++ ("deploy=" ++ flag d.deploy ++ "\n") ++
        ("site_version=" ++ d.site.single?.getD "" ++ "\n") := by
  apply String.toList_injective
  simp [outputText, outputLines, String.join, deployFlag, dryDeployFlag]

/-- A text of three lines without line feeds in them comes apart into these. -/
theorem splitOnP_three_lines {a b c : List Char} (ha : ∀ x ∈ a, isLineFeed x = false)
    (hb : ∀ x ∈ b, isLineFeed x = false) (hc : ∀ x ∈ c, isLineFeed x = false) :
    (a ++ '\n' :: (b ++ '\n' :: (c ++ ['\n']))).splitOnP isLineFeed = [a, b, c, []] := by
  have hn : isLineFeed '\n' = true := rfl
  rw [List.splitOnP_append_cons _ _ hn, List.splitOnP_append_cons _ _ hn,
    List.splitOnP_append_cons _ _ hn, List.splitOnP_eq_singleton ha, List.splitOnP_eq_singleton hb,
    List.splitOnP_eq_singleton hc]
  rfl

theorem not_isLineFeed_append {a b : List Char} (ha : ∀ x ∈ a, isLineFeed x = false)
    (hb : ∀ x ∈ b, isLineFeed x = false) : ∀ x ∈ a ++ b, isLineFeed x = false :=
  List.forall_mem_append.mpr ⟨ha, hb⟩

theorem not_isLineFeed_of_mem_outputLines {d : Decision} {key : String}
    (hk : ∀ c ∈ key.toList, isLineFeed c = false)
    (hv : ∀ c ∈ (d.site.single?.getD "").toList, isLineFeed c = false) :
    ∀ line ∈ d.outputLines key, ∀ c ∈ line.toList, isLineFeed c = false := by
  intro line hline
  have hcases : line = key ++ "=" ++ flag (!d.deploy) ∨ line = "deploy=" ++ flag d.deploy ∨
      line = "site_version=" ++ d.site.single?.getD "" := by
    simpa [outputLines, deployFlag, dryDeployFlag] using hline
  rcases hcases with rfl | rfl | rfl
  · simp only [String.toList_append]
    exact not_isLineFeed_append (not_isLineFeed_append hk (by simp [isLineFeed]))
      (not_isLineFeed_flag _)
  · simp only [String.toList_append]
    exact not_isLineFeed_append (by simp [isLineFeed]) (not_isLineFeed_flag _)
  · simp only [String.toList_append]
    exact not_isLineFeed_append (by simp [isLineFeed]) hv

/-- The lines come apart again when there is no line feed in the key and in the version. -/
theorem splitOnP_outputText {d : Decision} {key : String}
    (hk : ∀ c ∈ key.toList, isLineFeed c = false)
    (hv : ∀ c ∈ (d.site.single?.getD "").toList, isLineFeed c = false) :
    (d.outputText key).toList.splitOnP isLineFeed =
      [(key ++ "=" ++ flag (!d.deploy)).toList, ("deploy=" ++ flag d.deploy).toList,
        ("site_version=" ++ d.site.single?.getD "").toList, []] := by
  have hlines := not_isLineFeed_of_mem_outputLines hk hv
  have hkey := hlines (key ++ "=" ++ flag (!d.deploy)) (by simp [outputLines, dryDeployFlag])
  have hdeploy := hlines ("deploy=" ++ flag d.deploy) (by simp [outputLines, deployFlag])
  have hversion := hlines ("site_version=" ++ d.site.single?.getD "") (by simp [outputLines])
  rw [← splitOnP_three_lines hkey hdeploy hversion, outputText_eq]
  simp

theorem not_isLineFeed_of_not_mem {s : List Char} (h : '\n' ∉ s) :
    ∀ c ∈ s, isLineFeed c = false := by
  intro c hc
  have hne : c ≠ '\n' := fun he => h (he ▸ hc)
  simpa [isLineFeed] using hne

theorem readOutput?_outputText {d : Decision} {key : String}
    (hk : ∀ c ∈ key.toList, isLineFeed c = false)
    (hv : ∀ c ∈ (d.site.single?.getD "").toList, isLineFeed c = false) :
    readOutput? (d.outputText key) = some (d.deploy, d.site.single?.getD "") := by
  unfold readOutput?
  rw [splitOnP_outputText hk hv]
  simp only [String.toList_append, isPrefixOf?_append]
  simp [readFlag?_flag]

end Decision

namespace Gate

/-- The version in the lines of a decision is one that the page shows, or none at all. -/
theorem not_lineEnd_of_mem_single (g : Gate) (build : BuildVersion) :
    ∀ c ∈ ((g.evaluate build).1.site.single?.getD "").toList,
      VersionPattern.isLineEnd c = false := by
  intro c hc
  cases hs : (g.evaluate build).1.site.single? with
  | none => simp [hs] at hc
  | some v =>
    have hv : g.published.1 = [v] := SiteVersion.single?_ofMatches.mp hs
    have hm : v ∈ g.published.1 := by simp [hv]
    exact not_lineEnd_of_mem_published hm (by simpa [hs] using hc)

theorem not_isLineFeed_of_mem_single (g : Gate) (build : BuildVersion) :
    ∀ c ∈ ((g.evaluate build).1.site.single?.getD "").toList, Decision.isLineFeed c = false := by
  intro c hc
  have := g.not_lineEnd_of_mem_single build c hc
  simp_all [VersionPattern.isLineEnd, Decision.isLineFeed]

/-- A page cannot add lines for the publishing task: there are three of them, and they say whether
to deploy and which version was found. They are what is appended to the output file. -/
theorem three_lines_of_evaluate (g : Gate) (build : BuildVersion) {key : String}
    (hk : '\n' ∉ key.toList) :
    let d := (g.evaluate build).1
    let keyLine := key ++ "=" ++ (if d.deploy then "false" else "true")
    let deployLine := if d.deploy then "deploy=true" else "deploy=false"
    ∃ version : String, (∀ c ∈ version.toList, c ≠ '\r' ∧ c ≠ '\n') ∧
      d.outputText key =
        keyLine ++ "\n" ++ (deployLine ++ "\n") ++ ("site_version=" ++ version ++ "\n") ∧
      (d.outputText key).toList.splitOnP Decision.isLineFeed =
        [keyLine.toList, deployLine.toList, ("site_version=" ++ version).toList, []] ∧
      Decision.readOutput? (d.outputText key) = some (d.deploy, version) ∧
      (∀ page v, g.site.page = .ok page → g.pattern.scan page = [v] → version = v) ∧
      ∀ (w w' : World) (file : Path),
        World.host.appendDecision file key d w = (.ok (), w') →
          FileTree.Appended w.tree w'.tree w.cwd file (Text.encode (d.outputText key)) := by
  intro d keyLine deployLine
  have hkey := Decision.not_isLineFeed_of_not_mem hk
  have hend := g.not_lineEnd_of_mem_single build
  have hversion := g.not_isLineFeed_of_mem_single build
  have hkeyLine : key ++ "=" ++ Decision.flag (!d.deploy) = keyLine := by
    simp only [keyLine]
    cases d.deploy <;> rfl
  have hdeployLine : "deploy=" ++ Decision.flag d.deploy = deployLine := by
    simp only [deployLine]
    cases d.deploy <;> rfl
  refine ⟨d.site.single?.getD "", ?_, ?_, ?_, ?_, ?_, ?_⟩
  · intro c hc
    simpa [VersionPattern.isLineEnd] using hend c hc
  · rw [Decision.outputText_eq, hkeyLine, hdeployLine]
  · rw [Decision.splitOnP_outputText hkey hversion, hkeyLine, hdeployLine]
  · exact Decision.readOutput?_outputText hkey hversion
  · intro page v hpage hscan
    have hv : g.published.1 = [v] := by simp [published, hpage, hscan]
    have hs : d.site.single? = some v := SiteVersion.single?_ofMatches.mpr hv
    rw [hs, Option.getD_some]
  · intro w w' file h
    obtain ⟨tree, rfl, ha⟩ := World.appendDecision_eq_ok h
    exact ha

/-- A pattern that takes line breaks for part of a version finds none in it. -/
theorem three_lines_with_breaking_pattern :
    '\n' ∉ "dry_deploy".toList ∧
      let anything : Pattern.Expr :=
        .seq .empty (.group 1 (.plus true (.chars (.ofPairs [(0, 0x10FFFF)]))))
      let g : Gate :=
        { site := .canned "https://protelis.github.io/wiki" "\r\n2.3.1\r"
          pattern := ⟨"(?s)(.+)", anything, .ofExpr anything⟩ }
      let d := (g.evaluate ⟨"2.4.0"⟩).1
      VersionPattern.read .standard "(?s)(.+)" = .ok g.pattern ∧
        Decision.readOutput? (d.outputText "dry_deploy") = some (true, "2.3.1") := by
  have hk : '\n' ∉ "dry_deploy".toList := by decide
  refine ⟨hk, ?_⟩
  intro anything g d
  obtain ⟨version, -, -, -, hread, hv, -⟩ := three_lines_of_evaluate g ⟨"2.4.0"⟩ hk
  have hscan : g.pattern.scan "\r\n2.3.1\r" = ["2.3.1"] := by decide +kernel
  obtain rfl := hv _ _ rfl hscan
  have hd : d.deploy = true := by decide +kernel
  exact ⟨by decide +kernel, hread.trans (by rw [hd])⟩

end Gate

end PublishGate
