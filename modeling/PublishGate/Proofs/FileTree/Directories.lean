import Mathlib.Data.List.Basic
import PublishGate.Host
import PublishGate.Proofs.FileTree.Append
import PublishGate.Proofs.Path.Above

/-! # Directories above a file

The way to a file goes through the directories that the paths above it lead to. Before a file is
written those of them that are missing are made, and no others. -/

namespace PublishGate

namespace FileTree

variable {t t' u : FileTree} {cwd place : Place} {p a file : Path} {node : Node}

/-! ## What paths lead to -/

theorem find_eq_ok_iff :
    t.find cwd p = .ok (place, node) ↔
      p.fault? = none ∧ t.follow (p.base cwd) p.names = .ok place ∧ t.get? place = some node ∧
        (p.endsInSlash = true → node = .directory) := by
  unfold find
  constructor
  · intro h
    split at h
    · cases h
    next hs =>
      split at h
      · cases h
      next place' hf =>
        split at h
        · cases h
        next node' hg =>
          split_ifs at h with hslash
          · obtain ⟨rfl, rfl⟩ : place' = place ∧ node' = node := by simpa using h
            refine ⟨hs, hf, hg, ?_⟩
            simpa using hslash
  · rintro ⟨hs, hf, hg, hslash⟩
    rw [hs]
    dsimp only
    rw [hf]
    dsimp only
    rw [hg]
    have hkeep : ¬ (p.endsInSlash && node != .directory) = true := by simpa using hslash
    exact if_neg hkeep

/-- A path leads to the same node while this one and all directories stay. -/
theorem find_of_kept (hf : t.find cwd p = .ok (place, node))
    (h : ∀ q, t.get? q = some .directory → t'.get? q = some .directory)
    (hn : t'.get? place = some node) : t'.find cwd p = .ok (place, node) := by
  obtain ⟨hs, hway, -, hslash⟩ := find_eq_ok_iff.mp hf
  exact find_eq_ok_iff.mpr ⟨hs, follow_of_kept h hway, hn, hslash⟩

theorem present_eq_true_iff :
    t.present cwd p = true ↔ ∃ place node, t.find cwd p = .ok (place, node) := by
  unfold present
  rcases t.find cwd p with cause | ⟨place, node⟩ <;> simp

theorem AddsDirectories.directory (h : AddsDirectories t t') (q : Place)
    (hq : t.get? q = some .directory) : t'.get? q = some .directory :=
  h.kept q _ hq

theorem AddsDirectories.present (h : AddsDirectories t t') (hp : t'.present cwd p = false) :
    t.present cwd p = false := by
  by_contra hne
  obtain ⟨place, node, hf⟩ := present_eq_true_iff.mp (Bool.not_eq_false _ ▸ hne)
  have hn := (find_eq_ok_iff.mp hf).2.2.1
  have hp' := present_eq_true_iff.mpr ⟨_, _, find_of_kept hf h.directory (h.kept place node hn)⟩
  rw [hp] at hp'
  cases hp'

theorem exists_follow_of_append {start : Place} {names more : List String}
    (h : t.follow start (names ++ more) = .ok place) :
    ∃ mid, t.follow start names = .ok mid ∧ t.follow mid more = .ok place := by
  induction names generalizing start with
  | nil => exact ⟨start, rfl, h⟩
  | cons name names ih =>
    rw [List.cons_append, follow] at h
    rw [follow]
    split at h
    · cases h
    next hd =>
      split_ifs at h ⊢
      · exact ih h
      · exact ih h
      · exact ih h

theorem directory_of_follow_cons {start : Place} {name : String} {more : List String}
    (h : t.follow start (name :: more) = .ok place) : t.directory start = .ok () := by
  rw [follow] at h
  split at h
  · cases h
  next hd => exact hd

theorem text_ne_empty_of_fault? (h : p.fault? = none) : p.text ≠ "" := by
  intro he
  simp [Path.fault?, he] at h

theorem fault?_of_begins (h : Path.Begins a p) (ha : a.text ≠ "") (hp : p.fault? = none) :
    a.fault? = none := by
  unfold Path.fault? at hp ⊢
  split_ifs at hp with hempty hnul
  have hnul' : ¬ a.text.toList.contains '\x00' = true := by
    intro hc
    exact hnul (List.contains_iff_mem.mpr (h.text.subset (List.contains_iff_mem.mp hc)))
  rw [if_neg ha, if_neg hnul']

/-- On the way to what a path leads to there are directories. -/
theorem find_of_begins (hf : t.find cwd p = .ok (place, node)) (h : Path.Begins a p)
    (ha : a.text ≠ "") : ∃ q, t.find cwd a = .ok (q, .directory) := by
  obtain ⟨hs, hway, -, -⟩ := find_eq_ok_iff.mp hf
  obtain ⟨rest, hrest, hnames⟩ := h.names
  obtain ⟨name, more, rfl⟩ := List.exists_cons_of_ne_nil hrest
  have hbase : p.base cwd = a.base cwd := by simp [Path.base, h.isAbsolute]
  rw [hbase, hnames] at hway
  obtain ⟨q, hq, hmore⟩ := exists_follow_of_append hway
  have hd := directory_eq_ok.mp (directory_of_follow_cons hmore)
  exact ⟨q, find_eq_ok_iff.mpr ⟨fault?_of_begins h ha hs, hq, hd, fun _ => rfl⟩⟩

/-! ## Making directories -/

/-- Where there is anything already, no directory is made. -/
theorem makeDirectory_of_find (hf : t.find cwd p = .ok (place, node)) :
    t.makeDirectory cwd p = .error .alreadyExists := by
  obtain ⟨hs, hway, hn, -⟩ := find_eq_ok_iff.mp hf
  unfold makeDirectory entry
  rw [hs]
  dsimp only
  rcases List.eq_nil_or_concat' p.names with hnil | ⟨names, name, hnames⟩
  · -- a path without names is the root
    have habs : p.isAbsolute = true := by
      by_contra habs
      exact Path.names_ne_nil_of_not_isAbsolute (text_ne_empty_of_fault? hs)
        (Bool.eq_false_iff.mpr habs) hnil
    have hbase : p.base cwd = [] := if_pos habs
    have hroot : t.directory [] = .ok () := rfl
    rw [hnil, hbase, List.dropLast_nil, follow]
    dsimp only
    rw [hroot]
    rfl
  · rw [hnames] at hway
    obtain ⟨dir, hdir, hlast⟩ := exists_follow_of_append hway
    have hd := directory_of_follow_cons hlast
    rw [hnames, List.dropLast_concat, hdir, List.getLast?_concat]
    dsimp only
    rw [hd]
    dsimp only
    rw [follow, hd] at hlast
    by_cases hdot : name = "." ∨ name = ".."
    · rw [if_pos hdot]
    · obtain ⟨hdot, hdots⟩ := not_or.mp hdot
      simp only [hdot, hdots, ↓reduceIte] at hlast
      simp only [hdot, hdots, or_self, ↓reduceIte]
      split_ifs at hlast ⊢ with hlong
      obtain rfl : dir ++ [name] = place := by simpa [follow] using hlast
      dsimp only
      rw [hn]

theorem isDirectory_iff :
    t.isDirectory cwd p = true ↔ ∃ place, t.find cwd p = .ok (place, .directory) := by
  unfold isDirectory
  rcases t.find cwd p with cause | ⟨place, node⟩
  · simp
  · cases node <;> simp

/-- A directory that is there needs no other ones to be made. -/
theorem makeDirectories_of_isDirectory (h : t.isDirectory cwd p = true) :
    t.makeDirectories cwd p = (.ok (), t) := by
  obtain ⟨place, hf⟩ := isDirectory_iff.mp h
  have hm := makeDirectory_of_find hf
  obtain ⟨above, habove⟩ : ∃ above, p.ancestors = p :: above := by
    unfold Path.ancestors
    cases p.text.length with
    | zero => exact ⟨[], rfl⟩
    | succ n => exact ⟨_, rfl⟩
  rw [makeDirectories, habove, makeEach, hm]
  dsimp only
  rw [if_pos h, ite_self]

/-- Of the directories above a file those that were missing are made. Nothing else is changed. -/
structure MakesAbove (t t' : FileTree) (cwd : Place) (file : Path) : Prop
    extends AddsDirectories t t' where
  made : ∀ q, t.get? q = none → t'.get? q ≠ none →
    ∃ a, a.IsAbove file ∧ t.present cwd a = false ∧ t'.find cwd a = .ok (q, .directory)

theorem MakesAbove.refl (t : FileTree) : MakesAbove t t cwd file :=
  ⟨.refl t, fun _ hn hne => absurd hn hne⟩

theorem MakesAbove.trans (h : MakesAbove t t' cwd file) (k : MakesAbove t' u cwd file) :
    MakesAbove t u cwd file := by
  refine ⟨h.toAddsDirectories.trans k.toAddsDirectories, ?_⟩
  intro q hn hne
  by_cases hq : t'.get? q = none
  · obtain ⟨a, ha, hmissing, hfind⟩ := k.made q hq hne
    exact ⟨a, ha, h.toAddsDirectories.present hmissing, hfind⟩
  · obtain ⟨a, ha, hmissing, hfind⟩ := h.made q hn hq
    have hd := (find_eq_ok_iff.mp hfind).2.2.1
    exact ⟨a, ha, hmissing, find_of_kept hfind k.directory (k.directory q hd)⟩

theorem makesAbove_makeDirectory (ha : a.IsAbove file) (h : t.makeDirectory cwd a = .ok t') :
    MakesAbove t t' cwd file := by
  have hadds := addsDirectories_makeDirectory h
  refine ⟨hadds, ?_⟩
  intro q hn hne
  have hmissing : t.present cwd a = false := by
    by_contra hp
    obtain ⟨place, node, hf⟩ := present_eq_true_iff.mp (Bool.not_eq_false _ ▸ hp)
    rw [makeDirectory_of_find hf] at h
    cases h
  obtain ⟨dir, name, e, -, hr⟩ := makeDirectory_eq_ok h
  have hq : q = dir ++ [name] := by
    by_contra hq
    exact hne ((hr.elsewhere q hq).trans hn)
  rw [hq]
  exact ⟨a, ha, hmissing, (e.kept hadds.directory).find hr.here (.inr rfl)⟩

theorem makesAbove_makeDirectories {dir : Path} (h : file.outputDirectory? = some dir)
    (t : FileTree) : MakesAbove t (t.makeDirectories cwd dir).2 cwd file := by
  have hparent : file.parent? = some dir := (Option.filter_eq_some_iff.mp h).1
  refine related_makeEach (R := (MakesAbove · · cwd file)) .refl .trans ?_ t
  intro a ha t t' hm
  exact makesAbove_makeDirectory (Path.isAbove_of_mem_ancestors hparent ha) hm

/-- What may become of a place while a file elsewhere is written: it stays as it is, or it was free
and there is now a directory, to which a path above the file leads that led nowhere. -/
inductive KeptOrMade (t t' : FileTree) (cwd : Place) (file : Path) (q : Place) : Prop where
  | kept (same : t'.get? q = t.get? q)
  | made (a : Path) (above : a.IsAbove file) (missing : t.present cwd a = false)
      (free : t.get? q = none) (found : t'.find cwd a = .ok (q, .directory))

theorem MakesAbove.keptOrMade (h : MakesAbove t t' cwd file) (q : Place) :
    KeptOrMade t t' cwd file q := by
  cases hq : t.get? q with
  | some node => exact .kept ((h.kept q node hq).trans hq.symm)
  | none =>
    by_cases hq' : t'.get? q = none
    · exact .kept (hq'.trans hq.symm)
    · obtain ⟨a, ha, hmissing, hfind⟩ := h.made q hq hq'
      exact .made a ha hmissing hq hfind

theorem KeptOrMade.replaced {q : Place} (h : KeptOrMade t t' cwd file q)
    (hr : Replaced t' u place node) (hne : t'.get? place ≠ some .directory) (hq : q ≠ place) :
    KeptOrMade t u cwd file q := by
  have hsame := hr.elsewhere q hq
  cases h with
  | kept same => exact .kept (hsame.trans same)
  | made a above missing free found =>
    have hd : t'.get? q = some .directory := (find_eq_ok_iff.mp found).2.2.1
    exact .made a above missing free
      (find_of_kept found (hr.directory hne) (hsame.trans hd))

/-- Where a place is kept or a directory is made, no file comes, goes or changes. -/
theorem KeptOrMade.file_iff {q : Place} (h : KeptOrMade t t' cwd file q) (content : List UInt8) :
    t'.get? q = some (.file content) ↔ t.get? q = some (.file content) := by
  cases h with
  | kept same => rw [same]
  | made a above missing free found =>
    rw [free, (find_eq_ok_iff.mp found).2.2.1]
    simp

/-- A path that led to something leads to the same place while the directories stay. -/
theorem place_of_kept (hf : t.find cwd p = .ok (place, node))
    (h : ∀ q, t.get? q = some .directory → t'.get? q = some .directory) {q : Place} {node' : Node}
    (hf' : t'.find cwd p = .ok (q, node')) : place = q := by
  have hway := follow_of_kept h (find_eq_ok_iff.mp hf).2.1
  exact Except.ok.inj (hway.symm.trans (find_eq_ok_iff.mp hf').2.1)

/-- What keeps a file from being written: the path says nothing, it leads to a directory, or a file
stands where a directory above it would have to be. -/
inductive Blocked (t : FileTree) (cwd : Place) (file : Path) : Prop where
  | noPath (empty : file.text = "")
  | directory (found : t.isDirectory cwd file = true)
  | behindFile (a : Path) (above : a.IsAbove file) (q : Place) (content : List UInt8)
      (found : t.find cwd a = .ok (q, .file content))

/-- Where bytes could be appended, nothing was in the way. -/
theorem Opens.not_blocked {bytes : List UInt8} (o : Opens t' cwd file place)
    (h : AddsDirectories t t') (hn : taking bytes (t'.get? place) = some node)
    (hr : Replaced t' u place node) : ¬ Blocked t cwd file := by
  have hne : t'.get? place ≠ some .directory := not_directory_of_taking hn
  have hkept := hr.directory hne
  have hfind : u.find cwd file = .ok (place, node) := (o.kept hkept).find hr.here
  have hdirectory : ∀ q, t.get? q = some .directory → u.get? q = some .directory := by
    intro q hq
    exact hkept q (h.directory q hq)
  intro hblocked
  cases hblocked with
  | noPath hempty => exact text_ne_empty_of_fault? (find_eq_ok_iff.mp hfind).1 hempty
  | directory hdir =>
    obtain ⟨q, hq⟩ := isDirectory_iff.mp hdir
    obtain rfl : q = place := place_of_kept hq hdirectory hfind
    exact hne (h.directory q (find_eq_ok_iff.mp hq).2.2.1)
  | behindFile a above q content hq =>
    have ha : a.text ≠ "" := text_ne_empty_of_fault? (find_eq_ok_iff.mp hq).1
    obtain ⟨q', hq'⟩ := find_of_begins hfind (above.begins ha) ha
    obtain rfl : q = q' := place_of_kept hq hdirectory hq'
    have hafter : u.get? q = some .directory := (find_eq_ok_iff.mp hq').2.2.1
    have hbefore : t'.get? q = some (.file content) := h.kept q _ (find_eq_ok_iff.mp hq).2.2.1
    -- above the file there is a directory now, where a file was: neither the bytes nor the making
    -- of directories can have put it there
    by_cases hplace : q = place
    · rw [hplace, hr.here] at hafter
      exact ne_directory_of_taking hn (Option.some.inj hafter)
    · rw [hr.elsewhere q hplace, hbefore] at hafter
      cases hafter

end FileTree

end PublishGate
