import Mathlib.Data.List.Basic
import Mathlib.Tactic.SplitIfs
import PublishGate.FileTree

/-! # Appending to files in a tree

Making directories adds directories and changes nothing else, so that a path leads to the same place
before and after; a file that is appended to is the one that its path leads to. -/

namespace PublishGate.FileTree

variable {t t' u : FileTree} {cwd : Place} {p : Path}

theorem get?_put_self {place : Place} (h : place ≠ []) (node : Node) :
    (t.put place node).get? place = some node := by
  simp [get?, put, h]

theorem get?_put_of_ne {place q : Place} (h : q ≠ place) (node : Node) :
    (t.put place node).get? q = t.get? q := by
  have hf : (t.nodes.filter (·.1 ≠ place)).find? (·.1 = q) = t.nodes.find? (·.1 = q) := by
    rw [List.find?_filter]
    congr 1
    funext entry
    by_cases he : entry.1 = q <;> simp [he, h]
  unfold get? put
  rw [List.find?_cons_of_neg (by simpa using Ne.symm h), hf]

/-- There is another node at one place, and the rest is as before. -/
structure Replaced (t t' : FileTree) (place : Place) (node : Node) : Prop where
  here : t'.get? place = some node
  elsewhere : ∀ q, q ≠ place → t'.get? q = t.get? q

theorem replaced_put {place : Place} (h : place ≠ []) (node : Node) :
    Replaced t (t.put place node) place node :=
  ⟨get?_put_self h node, fun _ hq => get?_put_of_ne hq node⟩

theorem Replaced.trans {place : Place} {node node' : Node} (h : Replaced t t' place node)
    (k : Replaced t' u place node') : Replaced t u place node' :=
  ⟨k.here, fun q hq => (k.elsewhere q hq).trans (h.elsewhere q hq)⟩

/-- Directories stay where no directory is replaced. -/
theorem Replaced.directory {place : Place} {node : Node} (h : Replaced t t' place node)
    (hne : t.get? place ≠ some .directory) (q : Place) (hq : t.get? q = some .directory) :
    t'.get? q = some .directory := by
  have hqp : q ≠ place := by
    rintro rfl
    exact hne hq
  rw [h.elsewhere q hqp, hq]

/-! ## Places that paths lead to -/

theorem directory_eq_ok {place : Place} :
    t.directory place = .ok () ↔ t.get? place = some .directory := by
  unfold directory
  split <;> simp_all

/-- A way that leads on through directories does so wherever these are. -/
theorem follow_of_kept (h : ∀ q, t.get? q = some .directory → t'.get? q = some .directory)
    {start place : Place} {names : List String} (hf : t.follow start names = .ok place) :
    t'.follow start names = .ok place := by
  induction names generalizing start with
  | nil => exact hf
  | cons name names ih =>
    unfold follow at hf ⊢
    split at hf
    · simp at hf
    next hd =>
      rw [directory_eq_ok.mpr (h start (directory_eq_ok.mp hd))]
      dsimp only
      split_ifs at hf ⊢
      · exact ih hf
      · exact ih hf
      · exact ih hf

theorem follow_append {start place : Place} {names : List String}
    (hf : t.follow start names = .ok place) (more : List String) :
    t.follow start (names ++ more) = t.follow place more := by
  induction names generalizing start with
  | nil =>
    obtain rfl : start = place := by simpa [follow] using hf
    rfl
  | cons other names ih =>
    rw [follow] at hf
    rw [List.cons_append, follow]
    split at hf
    · simp at hf
    next hd =>
      split_ifs at hf ⊢
      · exact ih hf
      · exact ih hf
      · exact ih hf

/-- A place for a node: a directory that the path leads to, and a name in it. -/
structure Entry (t : FileTree) (cwd : Place) (p : Path) (place : Place) (name : String) : Prop where
  sound : p.fault? = none
  way : t.follow (p.base cwd) p.names.dropLast = .ok place
  directory : t.get? place = some .directory
  last : p.names.getLast? = some name
  proper : name ≠ "." ∧ name ≠ ".."
  short : ¬ nameLimit < name.utf8ByteSize

theorem entry_eq_some {place : Place} {name : String}
    (h : t.entry cwd p = .ok (place, some name)) : Entry t cwd p place name := by
  unfold entry at h
  split at h
  · simp at h
  next hs =>
    split at h
    · simp at h
    next place' hw =>
      split at h
      · simp at h
      next hd =>
        split at h
        · simp at h
        next name' hl =>
          split_ifs at h with hp hn
          · simp at h
          · simp only [Except.ok.injEq, Prod.mk.injEq, Option.some.injEq] at h
            obtain ⟨rfl, rfl⟩ := h
            exact ⟨hs, hw, directory_eq_ok.mp hd, hl, not_or.mp hp, hn⟩

theorem Entry.entry_eq {place : Place} {name : String} (e : Entry t cwd p place name) :
    t.entry cwd p = .ok (place, some name) := by
  unfold entry
  rw [e.sound]
  dsimp only
  rw [e.way]
  dsimp only
  rw [directory_eq_ok.mpr e.directory, e.last]
  simp [e.proper, e.short]

/-- An entry stays one while its directory and those on the way to it stay. -/
theorem Entry.kept {place : Place} {name : String} (e : Entry t cwd p place name)
    (h : ∀ q, t.get? q = some .directory → t'.get? q = some .directory) :
    Entry t' cwd p place name where
  sound := e.sound
  way := follow_of_kept h e.way
  directory := h place e.directory
  last := e.last
  proper := e.proper
  short := e.short

theorem Entry.follow_names {place : Place} {name : String} (e : Entry t cwd p place name) :
    t.follow (p.base cwd) p.names = .ok (place ++ [name]) := by
  have hnames : p.names = p.names.dropLast ++ [name] :=
    (List.dropLast_append_getLast? name e.last).symm
  rw [hnames, follow_append e.way]
  simp [follow, directory_eq_ok.mpr e.directory, e.proper, e.short]

/-- The path leads to what is at its entry. A file is not behind a slash. -/
theorem Entry.find {place : Place} {name : String} (e : Entry t cwd p place name) {node : Node}
    (hn : t.get? (place ++ [name]) = some node)
    (hp : p.endsInSlash = false ∨ node = .directory) :
    t.find cwd p = .ok (place ++ [name], node) := by
  rcases hp with hp | hp
  · simp [FileTree.find, e.sound, e.follow_names, hn, hp]
  · simp [FileTree.find, e.sound, e.follow_names, hn, hp]

/-! ## Making directories -/

/-- All nodes of `t` are in `t'`, and what is new in `t'` are directories. -/
structure AddsDirectories (t t' : FileTree) : Prop where
  kept : ∀ place node, t.get? place = some node → t'.get? place = some node
  new : ∀ place, t.get? place = none → t'.get? place = none ∨ t'.get? place = some .directory

theorem AddsDirectories.refl (t : FileTree) : AddsDirectories t t :=
  ⟨fun _ _ h => h, fun _ h => .inl h⟩

theorem AddsDirectories.trans (h : AddsDirectories t t') (k : AddsDirectories t' u) :
    AddsDirectories t u := by
  constructor
  · intro place node hn
    exact k.kept place node (h.kept place node hn)
  · intro place hn
    rcases h.new place hn with hn | hd
    · exact k.new place hn
    · exact .inr (k.kept place _ hd)

/-- A directory is made at a free entry. -/
theorem makeDirectory_eq_ok (h : t.makeDirectory cwd p = .ok t') :
    ∃ place name, Entry t cwd p place name ∧ t.get? (place ++ [name]) = none ∧
      Replaced t t' (place ++ [name]) .directory := by
  unfold makeDirectory at h
  split at h
  · cases h
  · cases h
  next place name he =>
    split at h
    · cases h
    next hfree =>
      obtain rfl := Except.ok.inj h
      exact ⟨place, name, entry_eq_some he, hfree, replaced_put (by simp) _⟩

theorem addsDirectories_makeDirectory (h : t.makeDirectory cwd p = .ok t') :
    AddsDirectories t t' := by
  obtain ⟨place, name, -, hfree, hr⟩ := makeDirectory_eq_ok h
  constructor
  · intro q node hq
    have hne : q ≠ place ++ [name] := by
      rintro rfl
      rw [hfree] at hq
      cases hq
    rw [hr.elsewhere q hne, hq]
  · intro q hq
    by_cases hqp : q = place ++ [name]
    · rw [hqp]
      exact .inr hr.here
    · exact .inl (by rw [hr.elsewhere q hqp, hq])

/-- What making one directory does to a tree, making several ones does, if it does not matter in how
many steps it is done. -/
theorem related_makeEach {R : FileTree → FileTree → Prop} {ps : List Path} (refl : ∀ t, R t t)
    (trans : ∀ {t t' u}, R t t' → R t' u → R t u)
    (step : ∀ p ∈ ps, ∀ {t t'}, t.makeDirectory cwd p = .ok t' → R t t') (t : FileTree) :
    R t (makeEach cwd ps t).2 := by
  induction ps generalizing t with
  | nil => exact refl t
  | cons p above ih =>
    have hp : ∀ {t t'}, t.makeDirectory cwd p = .ok t' → R t t' := step p (by simp)
    have ha : R t (makeEach cwd above t).2 :=
      ih (fun q hq => step q (List.mem_cons_of_mem p hq)) t
    unfold makeEach
    split
    · exact refl t
    · split
      next hm => exact hp hm
      next =>
        -- what is missing above comes first, by the induction, and then `p` in a second attempt
        split
        next he => rwa [he] at ha
        next he =>
          rw [he] at ha
          split
          next hm => exact trans ha (hp hm)
          next => split <;> exact ha
      next => split <;> exact refl t

/-! ## Appending -/

/-- The node that the path leads to has taken `bytes`: a file holds them behind what it held before,
and a sink has nothing to show for it. -/
inductive Appended (t t' : FileTree) (cwd : Place) (p : Path) (bytes : List UInt8) : Prop where
  | file (place : Place) (old : List UInt8)
      (before : t.get? place = some (.file old) ∨ t.get? place = none ∧ old = [])
      (found : t'.find cwd p = .ok (place, .file (old ++ bytes)))
  | sink (place : Place) (before : t.get? place = some .sink)
      (found : t'.find cwd p = .ok (place, .sink))

theorem Appended.of_addsDirectories {bytes : List UInt8} (h : AddsDirectories t t')
    (ha : Appended t' u cwd p bytes) : Appended t u cwd p bytes := by
  cases ha with
  | file place old before found =>
    refine .file place old ?_ found
    cases ht : t.get? place with
    | none =>
      rcases before with hb | ⟨-, hb⟩
      · rcases h.new place ht with hn | hd <;> simp_all
      · exact .inr ⟨rfl, hb⟩
    | some node =>
      have hk := h.kept place node ht
      rcases before with hb | ⟨hb, -⟩
      · exact .inl (hk.symm.trans hb)
      · simp [hb] at hk
  | sink place before found =>
    refine .sink place ?_ found
    cases ht : t.get? place with
    | none => rcases h.new place ht with hn | hd <;> simp_all
    | some node => exact (h.kept place node ht).symm.trans before

/-- What there is after bytes were appended to what there was, if anything. A directory and a device
without room take nothing. -/
def taking (bytes : List UInt8) : Option Node → Option Node
  | none => some (.file bytes)
  | some (.file old) => some (.file (old ++ bytes))
  | some .sink => some .sink
  | some .directory => none
  | some .full => none

structure Opens (t : FileTree) (cwd : Place) (p : Path) (place : Place) : Prop where
  entry : ∃ dir name, Entry t cwd p dir name ∧ dir ++ [name] = place
  noSlash : p.endsInSlash = false

theorem Opens.kept {place : Place} (o : Opens t cwd p place)
    (h : ∀ q, t.get? q = some .directory → t'.get? q = some .directory) : Opens t' cwd p place := by
  obtain ⟨dir, name, e, he⟩ := o.entry
  exact ⟨⟨dir, name, e.kept h, he⟩, o.noSlash⟩

theorem Opens.find {place : Place} (o : Opens t cwd p place) {node : Node}
    (hn : t.get? place = some node) : t.find cwd p = .ok (place, node) := by
  obtain ⟨dir, name, e, rfl⟩ := o.entry
  exact e.find hn (.inl o.noSlash)

/-- What can be appended to is appended to, and nothing else is changed. -/
theorem Opens.append {place : Place} (o : Opens t cwd p place) {bytes : List UInt8} {node : Node}
    (hn : taking bytes (t.get? place) = some node) :
    ∃ t', t.append cwd p bytes = (.ok (), t') ∧ Replaced t t' place node := by
  obtain ⟨dir, name, e, rfl⟩ := o.entry
  have hplace : dir ++ [name] ≠ [] := by simp
  unfold FileTree.append openFile
  rw [e.entry_eq]
  simp only [o.noSlash, Bool.false_eq_true, ↓reduceIte]
  cases hg : t.get? (dir ++ [name]) with
  | none =>
    obtain rfl : .file bytes = node := by simpa [hg, taking] using hn
    have hfresh : Replaced t (t.put (dir ++ [name]) (.file [])) (dir ++ [name]) (.file []) :=
      replaced_put hplace _
    dsimp only
    rw [hfresh.here]
    exact ⟨_, rfl, hfresh.trans (replaced_put hplace _)⟩
  | some old =>
    rw [hg] at hn
    cases old with
    | directory => cases hn
    | full => cases hn
    | file content =>
      obtain rfl := Option.some.inj hn
      dsimp only
      rw [hg]
      exact ⟨_, rfl, replaced_put hplace _⟩
    | sink =>
      obtain rfl := Option.some.inj hn
      dsimp only
      rw [hg]
      exact ⟨t, rfl, hg, fun _ _ => rfl⟩

/-- Appending either fails and leaves the tree as it is, or the path leads to a place that takes the
bytes. -/
theorem append_cases (t : FileTree) (cwd : Place) (p : Path) (bytes : List UInt8) :
    (∃ cause, t.append cwd p bytes = (.error cause, t)) ∨
      ∃ place node, Opens t cwd p place ∧ taking bytes (t.get? place) = some node := by
  cases he : t.entry cwd p with
  | error cause => exact .inl ⟨.opening cause, by simp [append, openFile, he]⟩
  | ok entry =>
    obtain ⟨dir, name | name⟩ := entry
    · exact .inl ⟨.opening .isDirectory, by simp [append, openFile, he]⟩
    · by_cases hs : p.endsInSlash = true
      · exact .inl ⟨.opening .isDirectory, by simp [append, openFile, he, hs]⟩
      · have hs : p.endsInSlash = false := Bool.eq_false_iff.mpr hs
        have o : Opens t cwd p (dir ++ [name]) := ⟨⟨dir, name, entry_eq_some he, rfl⟩, hs⟩
        cases hg : t.get? (dir ++ [name]) with
        | none => exact .inr ⟨_, .file bytes, o, by rw [hg]; rfl⟩
        | some node =>
          cases node with
          | directory => exact .inl ⟨.opening .isDirectory, by simp [append, openFile, he, hs, hg]⟩
          | full => exact .inl ⟨.writing .noSpace, by simp [append, openFile, he, hs, hg]⟩
          | file content => exact .inr ⟨_, .file (content ++ bytes), o, by rw [hg]; rfl⟩
          | sink => exact .inr ⟨_, .sink, o, by rw [hg]; rfl⟩

theorem not_directory_of_taking {bytes : List UInt8} {found : Option Node} {node : Node}
    (h : taking bytes found = some node) : found ≠ some .directory := by
  rintro rfl
  cases h

theorem ne_directory_of_taking {bytes : List UInt8} {found : Option Node} {node : Node}
    (h : taking bytes found = some node) : node ≠ .directory := by
  rintro rfl
  rcases found with - | ⟨⟩ | old | - | - <;> cases h

/-- What has taken some bytes takes others, and in the end it has taken both. -/
theorem taking_again {a b : List UInt8} {found : Option Node} {node : Node}
    (h : taking a found = some node) :
    ∃ node', taking b (some node) = some node' ∧ taking (a ++ b) found = some node' := by
  cases found with
  | none =>
    obtain rfl := Option.some.inj h
    exact ⟨.file (a ++ b), rfl, rfl⟩
  | some old =>
    cases old with
    | directory => cases h
    | full => cases h
    | file content =>
      obtain rfl := Option.some.inj h
      exact ⟨.file (content ++ a ++ b), rfl, by rw [taking, List.append_assoc]⟩
    | sink =>
      obtain rfl := Option.some.inj h
      exact ⟨.sink, rfl, rfl⟩

theorem appended_of_replaced {bytes : List UInt8} {place : Place} {node : Node}
    (o : Opens t cwd p place) (hn : taking bytes (t.get? place) = some node)
    (h : Replaced t t' place node) : Appended t t' cwd p bytes := by
  have hfind := (o.kept (h.directory (not_directory_of_taking hn))).find h.here
  cases hg : t.get? place with
  | none =>
    obtain rfl : .file bytes = node := by simpa [hg, taking] using hn
    exact .file place [] (.inr ⟨hg, rfl⟩) hfind
  | some old =>
    rw [hg] at hn
    cases old with
    | directory => cases hn
    | full => cases hn
    | file content =>
      obtain rfl := Option.some.inj hn
      exact .file place content (.inl hg) hfind
    | sink =>
      obtain rfl := Option.some.inj hn
      exact .sink place hg hfind

end PublishGate.FileTree
