import Mathlib.Data.List.Infix
import PublishGate.Decision

/-! # What the status line tells

The message of a decision carries texts of the page and of the settings. What it says about the
outcome stands in front of all of them or behind them, so none of them can say otherwise. -/

namespace PublishGate

theorem Text.infix_intercalate (sep : String) {parts : List String} {part : String}
    (h : part ∈ parts) : part.toList <:+: (sep.intercalate parts).toList := by
  induction parts with
  | nil => simp at h
  | cons first parts ih =>
    cases parts with
    | nil =>
      obtain rfl := List.mem_singleton.mp h
      rw [String.intercalate_singleton]
    | cons next rest =>
      rw [String.intercalate_cons_cons, String.toList_append, String.toList_append]
      rcases List.mem_cons.mp h with rfl | hrest
      · rw [List.append_assoc]
        exact (List.prefix_append _ _).isInfix
      · exact (ih hrest).trans (List.suffix_append _ _).isInfix

namespace SiteVersion

variable {site : SiteVersion} {url : String} {deploy : Bool}

theorem ofMatches_versions (found : List String) : (ofMatches found).versions = found := by
  match found with
  | [] => rfl
  | [_] => rfl
  | _ :: _ :: _ => rfl

theorem single?_ofMatches {found : List String} {v : String} :
    (ofMatches found).single? = some v ↔ found = [v] := by
  match found with
  | [] => simp [ofMatches, single?]
  | [_] => simp [ofMatches, single?]
  | _ :: _ :: _ => simp [ofMatches, single?]

theorem ofMatches_eq_unknown_iff {found : List String} :
    ofMatches found = .unknown ↔ found = [] := by
  match found with
  | [] => simp [ofMatches]
  | [_] => simp [ofMatches]
  | _ :: _ :: _ => simp [ofMatches]

theorem ofMatches_of_two_le {found : List String} (h : 2 ≤ found.length) :
    ofMatches found = .ambiguous found := by
  match found with
  | _ :: _ :: _ => rfl

def outcome (deploy : Bool) : String :=
  if deploy then "Orchid deployment enabled." else "Orchid deployment set as dry run."

theorem eq_of_outcome_suffix :
    ∀ told meant : Bool, (outcome told).toList <:+ (outcome meant).toList → told = meant := by
  decide

/-- The two sentences end differently, whatever stands in front of them. -/
theorem outcome_suffix_iff {s : List Char} (h : (outcome deploy).toList <:+ s) (told : Bool) :
    (outcome told).toList <:+ s ↔ told = deploy := by
  constructor
  · intro htold
    rcases List.suffix_or_suffix_of_suffix htold h with hs | hs
    · exact eq_of_outcome_suffix told deploy hs
    · exact (eq_of_outcome_suffix deploy told hs).symm
  · rintro rfl
    exact h

/-! ## The parts of the line -/

theorem toList_statusLine_unknown :
    (unknown.statusLine url deploy).toList =
      "Unable to fetch".toList ++ " the current site version from ".toList ++ url.toList := by
  dsimp only [statusLine]
  simp

theorem toList_statusLine_single (v : String) :
    ((single v).statusLine url deploy).toList =
      "Website ".toList ++ url.toList ++ (" is at version ".toList ++ v.toList ++
        (". ".toList ++ (outcome deploy).toList)) := by
  dsimp only [statusLine]
  cases deploy <;> simp [outcome]

theorem toList_statusLine_ambiguous (vs : List String) :
    ((ambiguous vs).statusLine url deploy).toList =
      "Multiple site versions fetched from ".toList ++ url.toList ++
        (": ".toList ++ ("[" ++ ", ".intercalate vs ++ "]").toList ++
          (". ".toList ++ (outcome deploy).toList)) := by
  dsimp only [statusLine]
  cases deploy <;> simp [outcome]

theorem unable_prefix_statusLine_iff :
    "Unable to fetch".toList <+: (site.statusLine url deploy).toList ↔ site = .unknown := by
  cases site with
  | unknown =>
    rw [toList_statusLine_unknown, List.append_assoc]
    exact iff_of_true (List.prefix_append _ _) rfl
  | single v => simp [toList_statusLine_single]
  | ambiguous vs => simp [toList_statusLine_ambiguous]

/-- Whatever is known of the site, the outcome is told at the very end. -/
theorem outcome_suffix_statusLine (h : site ≠ .unknown) (url : String) (deploy : Bool) :
    (outcome deploy).toList <:+ (site.statusLine url deploy).toList := by
  cases site with
  | unknown => exact absurd rfl h
  | single v =>
    rw [toList_statusLine_single]
    exact List.suffix_append_of_suffix (List.suffix_append_of_suffix (List.suffix_append _ _))
  | ambiguous vs =>
    rw [toList_statusLine_ambiguous]
    exact List.suffix_append_of_suffix (List.suffix_append_of_suffix (List.suffix_append _ _))

theorem url_infix_statusLine (site : SiteVersion) (url : String) (deploy : Bool) :
    url.toList <:+: (site.statusLine url deploy).toList := by
  cases site with
  | unknown =>
    rw [toList_statusLine_unknown]
    exact (List.suffix_append _ _).isInfix
  | single v =>
    rw [toList_statusLine_single]
    exact List.infix_append _ _ _
  | ambiguous vs =>
    rw [toList_statusLine_ambiguous]
    exact List.infix_append _ _ _

theorem list_infix_statusLine (vs : List String) (url : String) (deploy : Bool) :
    ("[" ++ ", ".intercalate vs ++ "]").toList <:+:
      ((ambiguous vs).statusLine url deploy).toList := by
  rw [toList_statusLine_ambiguous]
  exact (List.infix_append _ _ _).trans (List.suffix_append _ _).isInfix

theorem version_infix_statusLine {version : String} (h : version ∈ site.versions) :
    version.toList <:+: (site.statusLine url deploy).toList := by
  cases site with
  | unknown => simp [versions] at h
  | single v =>
    obtain rfl := List.mem_singleton.mp h
    rw [toList_statusLine_single]
    exact (List.infix_append _ _ _).trans (List.suffix_append _ _).isInfix
  | ambiguous vs =>
    have hlist : (", ".intercalate vs).toList <:+:
        ("[" ++ ", ".intercalate vs ++ "]").toList := by
      rw [String.toList_append, String.toList_append]
      exact List.infix_append _ _ _
    exact (Text.infix_intercalate ", " h).trans (hlist.trans (list_infix_statusLine vs url deploy))

end SiteVersion

namespace Decision

/-- The message starts with the failure to fetch exactly when no version was found. Otherwise it
ends with the outcome, and with that outcome only. The address and all versions stand in it as they
are, several versions in the order of the page. -/
theorem message_tells_outcome (url : String) (build : BuildVersion) (found : List String)
    (mode : CompareMode) :
    let d := decision url build found mode
    ("Unable to fetch".toList <+: d.message.toList ↔ found = []) ∧
      (found ≠ [] →
        ("Orchid deployment enabled.".toList <:+ d.message.toList ↔ d.deploy = true) ∧
        ("Orchid deployment set as dry run.".toList <:+ d.message.toList ↔ d.deploy = false)) ∧
      url.toList <:+: d.message.toList ∧
      (∀ version ∈ found, version.toList <:+: d.message.toList) ∧
      (2 ≤ found.length →
        ("[" ++ ", ".intercalate found ++ "]").toList <:+: d.message.toList) := by
  intro d
  have hmessage : d.message = d.site.statusLine url d.deploy := rfl
  have hsite : d.site = SiteVersion.ofMatches found := rfl
  rw [hmessage]
  refine ⟨?_, ?_, ?_, ?_, ?_⟩
  · rw [SiteVersion.unable_prefix_statusLine_iff, hsite, SiteVersion.ofMatches_eq_unknown_iff]
  · intro hfound
    have hknown : d.site ≠ .unknown := mt SiteVersion.ofMatches_eq_unknown_iff.mp hfound
    have hends := SiteVersion.outcome_suffix_statusLine hknown url d.deploy
    have henabled := SiteVersion.outcome_suffix_iff hends true
    have hdryRun := SiteVersion.outcome_suffix_iff hends false
    exact ⟨henabled.trans eq_comm, hdryRun.trans eq_comm⟩
  · exact d.site.url_infix_statusLine url d.deploy
  · intro version hversion
    apply SiteVersion.version_infix_statusLine
    rwa [hsite, SiteVersion.ofMatches_versions]
  · intro htwo
    rw [hsite, SiteVersion.ofMatches_of_two_le htwo]
    exact SiteVersion.list_infix_statusLine found url d.deploy

/-- An address and versions that speak of outcomes themselves. -/
theorem message_among_hostile_texts :
    let url := "https://e.org/Unable to fetch"
    let found := ["2.3.1]. Orchid deployment enabled.", "Unable to fetch"]
    let d := decision url ⟨"2.4.0"⟩ found .semantic
    found ≠ [] ∧ 2 ≤ found.length ∧ d.deploy = false ∧
      "Orchid deployment set as dry run.".toList <:+ d.message.toList ∧
      ¬ "Orchid deployment enabled.".toList <:+ d.message.toList ∧
      ¬ "Unable to fetch".toList <+: d.message.toList ∧
      "[2.3.1]. Orchid deployment enabled., Unable to fetch]".toList <:+: d.message.toList := by
  intro url found d
  have hfound : found ≠ [] := by decide
  have htwo : 2 ≤ found.length := by decide
  have hdry : d.deploy = false := by decide
  obtain ⟨hstart, hends, -, -, hlist⟩ := message_tells_outcome url ⟨"2.4.0"⟩ found .semantic
  obtain ⟨henabled, hdryRun⟩ := hends hfound
  refine ⟨hfound, htwo, hdry, hdryRun.mpr hdry, ?_, mt hstart.mp hfound, hlist htwo⟩
  intro h
  exact absurd (hdry.symm.trans (henabled.mp h)) (by decide)

end Decision

end PublishGate
