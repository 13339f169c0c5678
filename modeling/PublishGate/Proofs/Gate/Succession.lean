import Mathlib.Data.List.Chain
import PublishGate.Decision
import PublishGate.Proofs.Version.Order

/-! # What a site shows over a run of builds

Every build goes through the gate once, and the site shows it from then on when the decision is to
deploy. Each version shown is newer than the one before it, but no more than that: numbers and texts
may order versions differently, and where both are in use a site can come back to where it was. -/

namespace PublishGate

/-- A site over a run: the version it shows, and before it those that a deployment has replaced, the
oldest first. -/
structure Succession where
  replaced : List String
  published : String
  deriving DecidableEq, Repr

namespace Succession

def shown (s : Succession) : List String :=
  s.replaced ++ [s.published]

def next (url : String) (mode : CompareMode) (s : Succession) (build : String) : Succession :=
  if (decision url ⟨build⟩ [s.published] mode).deploy then ⟨s.shown, build⟩ else s

def run (url : String) (mode : CompareMode) (published : String) (builds : List String) :
    Succession :=
  builds.foldl (next url mode) ⟨[], published⟩

/-- Each version shown is newer than the one that it replaced. -/
def Ascending (mode : CompareMode) (versions : List String) : Prop :=
  versions.IsChain fun older newer => mode.isNewer newer older = true

variable {url : String} {mode : CompareMode}

theorem next_of_deploy {s : Succession} {build : String}
    (h : (decision url ⟨build⟩ [s.published] mode).deploy = true) :
    next url mode s build = ⟨s.shown, build⟩ := if_pos h

theorem next_of_dryRun {s : Succession} {build : String}
    (h : ¬ (decision url ⟨build⟩ [s.published] mode).deploy = true) :
    next url mode s build = s := if_neg h

theorem ascending_next {s : Succession} (hs : Ascending mode s.shown) (build : String) :
    Ascending mode (next url mode s build).shown := by
  by_cases hd : (decision url ⟨build⟩ [s.published] mode).deploy = true
  · have hn : mode.isNewer build s.published = true := hd
    rw [next_of_deploy hd]
    have hc : (s.replaced ++ s.published :: [build]).IsChain
        fun older newer => mode.isNewer newer older = true :=
      List.isChain_append_cons_cons.mpr ⟨hs, hn, List.isChain_singleton build⟩
    simpa [Ascending, shown] using hc
  · rwa [next_of_dryRun hd]

theorem ascending_run (url : String) (mode : CompareMode) (published : String)
    (builds : List String) : Ascending mode (run url mode published builds).shown := by
  suffices ∀ s : Succession, Ascending mode s.shown →
      Ascending mode (builds.foldl (next url mode) s).shown from
    this _ (List.isChain_singleton published)
  intro s hs
  induction builds generalizing s with
  | nil => exact hs
  | cons build builds ih => exact ih _ (ascending_next hs build)

/-- The versions between two showings of the same one are ascending, too. -/
theorem Ascending.circle {versions before between after : List String} {v : String}
    (h : Ascending mode versions) (hv : versions = before ++ v :: (between ++ v :: after)) :
    Ascending mode (v :: (between ++ [v])) := by
  subst hv
  have hc : (v :: (between ++ v :: after)).IsChain
      fun older newer => mode.isNewer newer older = true := (List.isChain_split.mp h).2
  exact (List.isChain_cons_split.mp hc).1

/-- A way round in a circle takes a step that leaves any strict order. -/
theorem exists_step_outside {R S : String → String → Prop} {v : String} {between : List String}
    (hc : (v :: (between ++ [v])).IsChain R) (irrefl : ∀ p, ¬ S p p)
    (trans : ∀ {p q r}, S p q → S q r → S p r) :
    ∃ p q, [p, q] <:+: v :: (between ++ [v]) ∧ R p q ∧ ¬ S p q := by
  by_contra hn
  push Not at hn
  have hs : (v :: (between ++ [v])).IsChain S := by
    refine List.isChain_iff_forall_rel_of_append_cons_cons.mpr ?_
    intro p q front back he
    have hr := List.isChain_iff_forall_rel_of_append_cons_cons.mp hc he
    exact hn p q ⟨front, back, by simp [he]⟩ hr
  have : Trans S S S := ⟨trans⟩
  have hp := List.isChain_iff_pairwise.mp hs
  exact irrefl v ((List.pairwise_cons.mp hp).1 v (by simp))

/-- A site shows a version again only when versions compare by their numbers. Since it was replaced
the site has then shown a version that is no release, and a release that stands above the one before
it by number but below it as a text. -/
theorem orders_disagree_of_return {published : String} {builds before between after : List String}
    {v : String}
    (h : (run url mode published builds).shown = before ++ v :: (between ++ v :: after)) :
    mode = .semantic ∧ (∃ u ∈ v :: between, Release.parse? u = none) ∧
      ∃ p q, [p, q] <:+: v :: (between ++ [v]) ∧ Release.Below p q ∧ q < p := by
  have hc : Ascending mode (v :: (between ++ [v])) :=
    (ascending_run url mode published builds).circle h
  obtain ⟨p, q, hpq, hn, ht⟩ :=
    exists_step_outside (S := (· < ·)) hc (fun p => lt_irrefl p) lt_trans
  obtain ⟨rfl, hb⟩ := CompareMode.isNewer_against_text hn ht
  have hne : q ≠ p := fun he => Release.below_irrefl p (he ▸ hb)
  refine ⟨rfl, ?_, p, q, hpq, hb, lt_of_le_of_ne (not_lt.mp ht) hne⟩
  -- If all were releases, their keys would rise all the way round.
  obtain ⟨a, b, hab, hn, hk⟩ :=
    exists_step_outside hc Release.below_irrefl (fun h k => Release.below_trans h k)
  have hm : ∀ u ∈ [a, b], u ∈ v :: between := by
    intro u hu
    have := hab.subset hu
    simpa [or_comm, or_left_comm] using this
  cases ha : Release.parse? a with
  | none => exact ⟨a, hm a (by simp), ha⟩
  | some r =>
    cases hb : Release.parse? b with
    | none => exact ⟨b, hm b (by simp), hb⟩
    | some s => exact absurd ⟨r, s, ha, hb, (Release.newer_iff_key_lt hb ha).mp hn⟩ hk

/-- Three builds bring a site back to the text that it showed at first. -/
theorem site_returns_to_replaced_version :
    ¬ (run "https://protelis.github.io/wiki-beta" .semantic "5"
      ["9.0.0", "10.0.0", "5"]).shown.Nodup := by
  decide

theorem orders_disagree_from_five_to_five :
    (run "https://protelis.github.io/wiki-beta" .semantic "5" ["9.0.0", "10.0.0", "5"]).shown =
        [] ++ "5" :: (["9.0.0", "10.0.0"] ++ "5" :: []) ∧
      CompareMode.semantic = .semantic ∧ (∃ u ∈ ["5", "9.0.0", "10.0.0"], Release.parse? u = none) ∧
      ∃ p q, [p, q] <:+: ["5", "9.0.0", "10.0.0", "5"] ∧ Release.Below p q ∧ q < p := by
  have h : (run "https://protelis.github.io/wiki-beta" .semantic "5"
      ["9.0.0", "10.0.0", "5"]).shown = [] ++ "5" :: (["9.0.0", "10.0.0"] ++ "5" :: []) := by
    decide
  exact ⟨h, orders_disagree_of_return h⟩

end Succession

end PublishGate
