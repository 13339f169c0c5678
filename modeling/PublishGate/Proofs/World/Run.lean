import PublishGate.World

/-! # Running in known surroundings

Each action of the program takes the surroundings before it to a result and the surroundings after
it. These equations follow a program from one action to the next. -/

namespace PublishGate.World

variable {w : World} {α β : Type}

theorem run_bind (x : StateM World α) (f : α → StateM World β) (w : World) :
    (x >>= f) w = f (x w).1 (x w).2 := rfl

theorem run_pure (a : α) (w : World) : (pure a : StateM World α) w = (a, w) := rfl

@[simp] theorem host_workingDirectory : host.workingDirectory w = (w.workingDirectory, w) := rfl
@[simp] theorem host_present (p : Path) : host.present p w = (w.tree.present w.cwd p, w) := rfl
@[simp] theorem host_readText (p : Path) : host.readText p w = (w.tree.readText w.cwd p, w) := rfl
@[simp] theorem host_readInput : host.readInput w = (FileTree.textOf w.input, w) := rfl
@[simp] theorem host_makeDirectories (p : Path) :
    host.makeDirectories p w = w.makeDirectories p := rfl
@[simp] theorem host_append (p : Path) (text : String) :
    host.append p text w = w.append p text := rfl
@[simp] theorem host_git (dir : Path) (query : GitQuery) :
    host.git dir query w = w.ask dir query := rfl
@[simp] theorem host_fetch (url : String) (timeout : Option Duration) :
    host.fetch url timeout w = w.fetch url := rfl
@[simp] theorem host_now : host.now w = (w.clock, w) := rfl
@[simp] theorem host_parsePattern (source : String) :
    host.parsePattern source w = (w.dialect.read source, w) := rfl
@[simp] theorem host_print (line : String) :
    host.print line w = ((), { w with printed := w.printed ++ [line] }) := rfl
@[simp] theorem host_report (e : Event) :
    host.report e w = ((), { w with reported := w.reported ++ [e] }) := rfl

theorem host_reportAll (events : List Event) :
    host.reportAll events w = ((), { w with reported := w.reported ++ events }) := by
  induction events generalizing w with
  | nil => simp [Host.reportAll, run_pure]
  | cons e events ih => simp [Host.reportAll, run_bind, ih]

theorem host_printAll (lines : List String) :
    host.printAll lines w = ((), { w with printed := w.printed ++ lines }) := by
  induction lines generalizing w with
  | nil => simp [Host.printAll, run_pure]
  | cons line lines ih => simp [Host.printAll, run_bind, ih]

/-! ## Actions that may fail -/

abbrev Attempt := ExceptT Failure (StateM World)

variable {w' : World} {a : α} {b : β} {x : Attempt α} {f : α → Attempt β}

theorem attempt_bind (x : Attempt α) (f : α → Attempt β) (w : World) :
    (x >>= f).run w = match x.run w with
      | (.ok a, w₁) => (f a).run w₁
      | (.error e, w₁) => (.error e, w₁) := by
  change (ExceptT.bindCont f (x.run w).1 (x.run w).2 : Id (Except Failure β × World)) = _
  rcases x.run w with ⟨e | a, w₁⟩ <;> rfl

theorem attempt_lift (x : StateM World α) (w : World) :
    (liftM x : Attempt α).run w = (.ok (x w).1, (x w).2) := rfl

theorem bind_eq_ok (h : (x >>= f).run w = (.ok b, w')) :
    ∃ a w₁, x.run w = (.ok a, w₁) ∧ (f a).run w₁ = (.ok b, w') := by
  rw [attempt_bind] at h
  rcases hx : x.run w with ⟨e | a, w₁⟩
  · rw [hx] at h
    cases h
  · rw [hx] at h
    exact ⟨a, w₁, rfl, h⟩

theorem attempt_bind_ok {w₁ : World} (hx : x.run w = (.ok a, w₁)) :
    (x >>= f).run w = (f a).run w₁ := by
  rw [attempt_bind, hx]

theorem attempt_bind_error {w₁ : World} {e : Failure} (hx : x.run w = (.error e, w₁)) :
    (x >>= f).run w = (.error e, w₁) := by
  rw [attempt_bind, hx]

theorem attempt_orFail {ε : Type} (failure : ε → Failure) (r : StateM World (Except ε α))
    (w : World) : (Host.orFail failure r).run w = ((r w).1.mapError failure, (r w).2) := by
  rw [Host.orFail, attempt_bind, attempt_lift]
  dsimp only
  cases (r w).1 <;> rfl

theorem orFail_eq_ok {ε : Type} {failure : ε → Failure} {r : StateM World (Except ε α)}
    (h : (Host.orFail failure r).run w = (.ok a, w')) : r w = (.ok a, w') := by
  rw [attempt_orFail] at h
  rcases hr : r w with ⟨e | a, w₁⟩
  · rw [hr] at h
    cases h
  · rw [hr] at h
    cases h
    rfl

/-! ## What actions leave as it is -/

/-- The action leaves a part of the surroundings as it was, however it ends. -/
def Keeps (part : World → β) (x : StateM World α) : Prop :=
  ∀ w, part (x w).2 = part w

section

variable {γ : Type} {part : World → γ}

theorem keeps_pure (part : World → γ) (a : α) : Keeps part (pure a) :=
  fun _ => rfl

theorem Keeps.bind {x : StateM World α} {f : α → StateM World β} (hx : Keeps part x)
    (hf : ∀ a, Keeps part (f a)) : Keeps part (x >>= f) :=
  fun w => (hf _ _).trans (hx w)

theorem Keeps.attempt_bind (hx : Keeps part x.run) (hf : ∀ a, Keeps part (f a).run) :
    Keeps part (x >>= f).run := by
  intro w
  rw [World.attempt_bind]
  have hw := hx w
  rcases hr : x.run w with ⟨e | a, w₁⟩
  · rw [hr] at hw
    exact hw
  · rw [hr] at hw
    exact (hf a w₁).trans hw

theorem Keeps.orFail {ε : Type} {r : StateM World (Except ε α)} (hr : Keeps part r)
    (failure : ε → Failure) : Keeps part (Host.orFail failure r).run := by
  intro w
  rw [attempt_orFail]
  exact hr w

end

end PublishGate.World
