import PublishGate.Gate
import PublishGate.Http

/-! # Pages from the network and pages at hand

To the gate, an answer of the network is a page that is already known, or else a site that cannot be
reached: the body of an answer without success is no page. -/

namespace PublishGate

namespace HttpOutcome

def Delivers (outcome : HttpOutcome) (body : String) : Prop :=
  ∃ status, 200 ≤ status ∧ status < 300 ∧ outcome = .answered status (.ok body)

theorem page_eq_ok_iff {outcome : HttpOutcome} {url body : String} :
    outcome.page url = .ok body ↔ outcome.Delivers body := by
  constructor
  · intro h
    cases outcome with
    | failed cause => cases h
    | answered status answer =>
      unfold page at h
      dsimp only at h
      split at h
      next hs =>
        cases answer with
        | error cause => cases h
        | ok text =>
          obtain rfl := Except.ok.inj h
          simp only [isSuccess, Bool.and_eq_true, decide_eq_true_eq] at hs
          exact ⟨status, hs.1, hs.2, rfl⟩
      next => cases h
  · rintro ⟨status, hlow, hhigh, rfl⟩
    simp [page, isSuccess, hlow, hhigh]

end HttpOutcome

namespace Gate

variable {g : Gate} {build : BuildVersion}

theorem site_fetched_of_delivers {url body : String} {outcome : HttpOutcome}
    (h : outcome.Delivers body) : Site.fetched url outcome = .canned url body := by
  unfold Site.fetched Site.canned
  rw [HttpOutcome.page_eq_ok_iff.mpr h]

/-- Without a page the gate decides as from an empty one, after one warning. -/
theorem evaluate_of_no_page {e : FetchError} (h : g.site.page = .error e) :
    g.evaluate build =
      (decision g.site.url build [] g.compare,
        [⟨.warn, "could not fetch " ++ g.site.url ++ ": " ++ e.message⟩,
          ⟨.info, (decision g.site.url build [] g.compare).message⟩]) := by
  have hpublished : g.published =
      ([], [⟨.warn, "could not fetch " ++ g.site.url ++ ": " ++ e.message⟩]) := by
    simp only [published, h]
  simp only [evaluate, hpublished, List.cons_append, List.nil_append]

theorem evaluate_of_page {body : String} (h : g.site.page = .ok body) :
    g.evaluate build =
      (decision g.site.url build (g.pattern.scan body) g.compare,
        [⟨.info, (decision g.site.url build (g.pattern.scan body) g.compare).message⟩]) := by
  have hpublished : g.published = (g.pattern.scan body, []) := by
    simp only [published, h]
  simp only [evaluate, hpublished, List.nil_append]

/-- However a request ends, the gate cannot tell it from a page at hand or from a site that cannot be
reached, but for the cause in its warning. -/
theorem evaluate_fetched (url : String) (pattern : VersionPattern) (mode : CompareMode)
    (build : BuildVersion) (outcome : HttpOutcome) :
    let result (site : Site) := Gate.evaluate ⟨site, pattern, mode⟩ build
    (∀ body, outcome.Delivers body → result (.fetched url outcome) = result (.canned url body)) ∧
      ((¬ ∃ body, outcome.Delivers body) →
        (result (.fetched url outcome)).1 = (result (.unreachable url)).1 ∧
        (result (.fetched url outcome)).1.deploy = false ∧
        ∃ cause, (result (.fetched url outcome)).2 =
          [⟨.warn, "could not fetch " ++ url ++ ": " ++ cause⟩,
            ⟨.info, (result (.fetched url outcome)).1.message⟩]) ∧
      ∀ e ∈ (result (.fetched url outcome)).2, e.level ≠ .error := by
  intro result
  refine ⟨?_, ?_, ?_⟩
  · intro body h
    rw [site_fetched_of_delivers h]
  · intro h
    cases hpage : outcome.page url with
    | ok body => exact absurd ⟨body, HttpOutcome.page_eq_ok_iff.mp hpage⟩ h
    | error e =>
      have hfetched : result (.fetched url outcome) = _ := evaluate_of_no_page hpage
      have hunreachable : result (.unreachable url) = _ := evaluate_of_no_page rfl
      rw [hfetched, hunreachable]
      exact ⟨rfl, rfl, _, rfl⟩
  · cases hpage : outcome.page url with
    | ok body =>
      have hfetched : result (.fetched url outcome) = _ := evaluate_of_page hpage
      rw [hfetched]
      simp
    | error e =>
      have hfetched : result (.fetched url outcome) = _ := evaluate_of_no_page hpage
      rw [hfetched]
      simp

end Gate

end PublishGate
