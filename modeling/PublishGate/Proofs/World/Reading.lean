import PublishGate.Proofs.World.Run

/-! # Reading leaves the surroundings as they are

Settings are read without any change. The version of the build may need questions to git, and
nothing else is changed by asking them. -/

namespace PublishGate.World

theorem keeps_loadSettings (file : Path) : Keeps id (host.loadSettings file) := by
  refine Keeps.bind (fun _ => rfl) fun found => ?_
  cases found with
  | false => exact keeps_pure id _
  | true => exact Keeps.bind (fun _ => rfl) fun _ => keeps_pure id _

theorem keeps_firstPresent (files : List Path) : Keeps id (host.firstPresent files) := by
  induction files with
  | nil => exact keeps_pure id none
  | cons file files ih =>
    refine Keeps.bind (fun _ => rfl) fun found => ?_
    cases found with
    | false => exact ih
    | true => exact keeps_pure id _

theorem keeps_fileSettings (o : Options) : Keeps id (host.fileSettings o).run := by
  unfold Host.fileSettings
  split
  next file _ =>
    refine Keeps.attempt_bind (fun _ => rfl) fun found => ?_
    cases found with
    | false => exact fun _ => rfl
    | true => exact (keeps_loadSettings file).orFail .settings
  next =>
    have hdir : Keeps id host.workingDirectory := fun _ => rfl
    refine (hdir.orFail .workingDirectory).attempt_bind fun dir => ?_
    refine Keeps.attempt_bind (keeps_firstPresent _) fun found => ?_
    cases found with
    | none => exact keeps_pure id _
    | some file => exact (keeps_loadSettings file).orFail .settings

theorem keeps_settings (o : Options) : Keeps id (host.settings o).run := by
  refine (keeps_fileSettings o).attempt_bind fun layer => ?_
  refine (Keeps.orFail (keeps_pure id _) id).attempt_bind fun timeout => ?_
  exact keeps_pure id _

theorem settings_snd (o : Options) (w : World) : ((host.settings o).run w).2 = w :=
  keeps_settings o w

theorem keeps_readPage (page : Path) : Keeps id (host.readPage page).run := by
  unfold Host.readPage
  split
  · exact Keeps.orFail (fun _ => rfl) .input
  · exact Keeps.orFail (fun _ => rfl) (.page page)

def unasked (w : World) : World :=
  { w with asked := [] }

theorem eq_of_unasked {w w₁ : World} (h : w₁.unasked = w.unasked) :
    ∃ asked, w₁ = { w with asked } := by
  refine ⟨w₁.asked, ?_⟩
  obtain ⟨⟩ := w
  obtain ⟨⟩ := w₁
  simp only [unasked, mk.injEq] at h ⊢
  simp [h]

theorem keeps_git (dir : Path) (query : GitQuery) : Keeps unasked (host.git dir query) := by
  intro w
  simp only [host_git, ask]
  split
  · rfl
  · split
    · rfl
    · split <;> rfl

theorem keeps_revision (dir : Path) : Keeps unasked (Revision.ask dir (host.git dir)) := by
  refine (keeps_git dir _).bind fun inside => ?_
  split
  · exact keeps_pure unasked _
  · refine (keeps_git dir _).bind fun head => ?_
    split
    · exact keeps_pure unasked _
    · refine (keeps_git dir _).bind fun status => ?_
      split
      · exact keeps_pure unasked _
      · refine (keeps_git dir _).bind fun describe => ?_
        split <;> exact keeps_pure unasked _

theorem keeps_buildVersion (o : Options) : Keeps unasked (host.buildVersion o).run := by
  unfold Host.buildVersion
  split
  · exact keeps_pure unasked _
  · exact ((keeps_revision o.repoPath).orFail .version).attempt_bind fun _ => keeps_pure unasked _

theorem keeps_dialect_buildVersion (o : Options) :
    Keeps (·.dialect) (host.buildVersion o).run := by
  intro w
  have hasked : ((host.buildVersion o).run w).2.unasked.dialect = w.unasked.dialect := by
    rw [keeps_buildVersion o w]
  exact hasked

end PublishGate.World
