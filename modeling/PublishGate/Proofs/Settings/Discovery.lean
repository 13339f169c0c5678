import Mathlib.Data.List.Infix
import PublishGate.Proofs.Path.Join
import PublishGate.Proofs.World.Steps

/-! # Finding the settings file

The search for a settings file goes up from a directory to the nearest one that holds such a file.
What it finds, and what is read from there, is the same from every directory below that one. -/

namespace PublishGate

namespace Path

variable {place : Place} {name : String}

/-- A name that may stand between two slashes of a path without being passed over. -/
structure IsPart (name : String) : Prop where
  notEmpty : name ≠ ""
  notPoint : name ≠ "."
  noSlash : '/' ∉ name.toList

theorem toList_ofPlace (place : Place) :
    (ofPlace place).text.toList = '/' :: ['/'].intercalate (place.map String.toList) := by
  simp [ofPlace, String.toList_intercalate]

theorem IsPart.not_isIdle (h : IsPart name) : isIdle name.toList = false := by
  have hempty : name.toList ≠ [] := mt String.toList_eq_nil_iff.mp h.notEmpty
  have hpoint : name.toList ≠ ['.'] := by
    intro he
    exact h.notPoint (String.toList_injective he)
  simp [isIdle, hempty, hpoint]

/-- The parent of a place below the root is the directory that holds its name. -/
theorem parent?_ofPlace_snoc (h : ∀ part ∈ place ++ [name], IsPart part) :
    (ofPlace (place ++ [name])).parent? = some (ofPlace place) := by
  have hname : IsPart name := h name (by simp)
  have hplace : ∀ part ∈ place, IsPart part := fun part hp => h part (by simp [hp])
  have hstart : start (ofPlace (place ++ [name])).text.toList =
      (['/'], ['/'].intercalate (place.map String.toList ++ [name.toList])) := by
    rw [toList_ofPlace, List.map_append]
    rfl
  have hpieces : (['/'].intercalate (place.map String.toList ++ [name.toList])).splitOn '/' =
      place.map String.toList ++ [name.toList] := by
    refine List.splitOn_intercalate '/' ?_ (by simp)
    intro part hp
    rcases List.mem_append.mp hp with hp | hp
    · obtain ⟨other, ho, rfl⟩ := List.mem_map.mp hp
      exact (hplace other ho).noSlash
    · rw [List.mem_singleton.mp hp]
      exact hname.noSlash
  have hidle : dropIdle (place.map String.toList) = place.map String.toList := by
    rcases List.eq_nil_or_concat' place with rfl | ⟨front, last, rfl⟩
    · rfl
    · rw [List.map_append, List.map_singleton]
      exact dropIdle_snoc (hplace last (by simp)).not_isIdle
  rw [parent?_eq_some_iff, hstart]
  refine .inr ⟨_, _, by rw [hpieces, dropIdle_snoc hname.not_isIdle], ?_⟩
  rw [toList_ofPlace, hidle]
  rfl

/-- Going up from a place takes away its last names. -/
theorem up_ofPlace {below : Place} (h : ∀ part ∈ place ++ below, IsPart part) {k : Nat}
    (hk : k ≤ below.length) :
    (ofPlace (place ++ below)).up k = some (ofPlace (place ++ below.take (below.length - k))) := by
  induction k with
  | zero => simp [up]
  | succ k ih =>
    obtain ⟨m, hm⟩ : ∃ m, below.length - k = m + 1 := ⟨below.length - k - 1, by omega⟩
    have hlt : m < below.length := by omega
    have htake : below.take (m + 1) = below.take m ++ [below[m]] := by
      rw [List.take_add_one, List.getElem?_eq_getElem hlt]
      rfl
    have hparts : ∀ part ∈ (place ++ below.take m) ++ [below[m]], IsPart part := by
      rw [List.append_assoc, ← htake]
      intro part hp
      apply h part
      rcases List.mem_append.mp hp with hp | hp
      · exact List.mem_append_left _ hp
      · exact List.mem_append_right _ (List.mem_of_mem_take hp)
    rw [up_succ, ih (by omega), hm, htake, Option.bind_some, ← List.append_assoc,
      parent?_ofPlace_snoc hparts]
    congr 4
    omega

theorem getLast?_ofPlace_snoc (place : Place) (h : IsPart name) :
    ∃ c, (ofPlace (place ++ [name])).text.toList.getLast? = some c ∧ c ≠ '/' := by
  have hne : name.toList ≠ [] := mt String.toList_eq_nil_iff.mp h.notEmpty
  have hlast : (['/'].intercalate ((place ++ [name]).map String.toList)).getLast? =
      name.toList.getLast? := by
    rw [List.map_append, List.map_singleton]
    cases hp : place.map String.toList with
    | nil => rw [List.nil_append, List.intercalate_singleton]
    | cons first rest =>
      rw [intercalate_snoc (by simp), List.getLast?_append_of_ne_nil _ (by simp)]
      exact List.getLast?_cons_of_ne_nil hne
  refine ⟨name.toList.getLast hne, ?_, ?_⟩
  · rw [toList_ofPlace, List.getLast?_cons, hlast, List.getLast?_eq_some_getLast hne]
    rfl
  · intro he
    exact h.noSlash (he ▸ List.getLast_mem hne)

theorem isAbsolute_ofPlace (place : Place) : (ofPlace place).isAbsolute = true := by
  unfold isAbsolute
  rw [toList_ofPlace]
  rfl

end Path

namespace Settings

theorem isPart_fileName : Path.IsPart fileName.text :=
  ⟨by decide, by decide, by decide⟩

/-- The settings file of a directory is one more name below it. -/
theorem fileIn_ofPlace {place : Place} (h : ∀ part ∈ place, Path.IsPart part) :
    fileIn (.ofPlace place) = .ofPlace (place ++ [fileName.text]) := by
  have hrelative : fileName.isAbsolute = false := by decide
  rcases List.eq_nil_or_concat' place with rfl | ⟨front, last, rfl⟩
  · decide
  · obtain ⟨c, hlast, hc⟩ := Path.getLast?_ofPlace_snoc front (h last (by simp))
    rw [fileIn, Path.join_of_not_slash hrelative hlast hc, Path.mk.injEq]
    have hne : (front ++ [last]).map String.toList ≠ [] := by simp
    have hslash : "/".toList = ['/'] := rfl
    apply String.toList_injective
    rw [Path.toList_ofPlace, List.map_append, List.map_singleton, Path.intercalate_snoc hne,
      String.toList_append, String.toList_append, Path.toList_ofPlace, hslash]
    simp

theorem ofContent_eq_ok_iff {file : Path} {content : Except FileError String} {s : Settings} :
    ofContent file content = .ok s ↔
      ∃ text read, content = .ok text ∧ ofToml? text = some read ∧
        s = match file.parent? with
          | some dir => read.anchored dir
          | none => read := by
  unfold ofContent
  cases content with
  | error cause => simp
  | ok text =>
    dsimp only
    cases hread : ofToml? text with
    | none => simp [hread]
    | some read => cases file.parent? <;> simp [hread, @eq_comm _ _ s]

/-- The settings in a file with a relative output file are anchored at the directory of that file. -/
theorem ofContent_eq_ok {file dir : Path} (hdir : file.parent? = some dir)
    {content : Except FileError String} {s : Settings} (h : ofContent file content = .ok s) :
    ∃ text read, content = .ok text ∧ ofToml? text = some read ∧ s = read.anchored dir := by
  simpa only [hdir] using ofContent_eq_ok_iff.mp h

end Settings

namespace FileTree

variable {t : FileTree} {p : Path}

/-- An absolute path leads to the same node from every directory. -/
theorem find_of_isAbsolute (h : p.isAbsolute = true) (cwd cwd' : Place) :
    t.find cwd p = t.find cwd' p := by
  have hbase : p.base cwd = p.base cwd' := by simp [Path.base, h]
  unfold find
  rw [hbase]

theorem present_of_isAbsolute (h : p.isAbsolute = true) (cwd cwd' : Place) :
    t.present cwd p = t.present cwd' p := by
  unfold present
  rw [find_of_isAbsolute h cwd cwd']

theorem readText_of_isAbsolute (h : p.isAbsolute = true) (cwd cwd' : Place) :
    t.readText cwd p = t.readText cwd' p := by
  unfold readText readBytes
  rw [find_of_isAbsolute h cwd cwd']

end FileTree

namespace World

def HoldsSettings (w : World) (dir : Path) : Prop :=
  w.tree.present w.cwd (Settings.fileIn dir) = true

instance (w : World) (dir : Path) : Decidable (w.HoldsSettings dir) :=
  inferInstanceAs (Decidable (_ = true))

/-- The directory that lies so many parents above `start` holds a settings file, and none of those
passed on the way there does. -/
structure NearestSettings (w : World) (start : Path) (steps : Nat) (dir : Path) : Prop where
  above : start.up steps = some dir
  holds : w.HoldsSettings dir
  first : ∀ k passed, k < steps → start.up k = some passed → ¬ w.HoldsSettings passed

variable {w : World} {start file dir : Path} {o : Options}

theorem findSettings_eq (start : Path) (w : World) :
    host.findSettings start w =
      ((start.ancestors.find? fun dir => w.tree.present w.cwd (Settings.fileIn dir)).map
        Settings.fileIn, w) := by
  rw [Host.findSettings, firstPresent_eq, List.find?_map]
  rfl

theorem findSettings_eq_some_iff :
    (host.findSettings start w).1 = some file ↔
      ∃ steps dir, w.NearestSettings start steps dir ∧ file = Settings.fileIn dir := by
  rw [findSettings_eq, Option.map_eq_some_iff]
  constructor
  · rintro ⟨dir, hfind, rfl⟩
    obtain ⟨hholds, steps, hlt, rfl, hfirst⟩ := List.find?_eq_some_iff_getElem.mp hfind
    refine ⟨steps, _, ⟨?_, hholds, ?_⟩, rfl⟩
    · rw [← Path.getElem?_ancestors, List.getElem?_eq_getElem hlt]
    · intro k passed hk hpassed
      rw [← Path.getElem?_ancestors, List.getElem?_eq_getElem (by omega)] at hpassed
      obtain rfl := Option.some.inj hpassed
      simpa [HoldsSettings] using hfirst k hk
  · rintro ⟨steps, dir, h, rfl⟩
    refine ⟨dir, List.find?_eq_some_iff_getElem.mpr ⟨h.holds, ?_⟩, rfl⟩
    have habove := h.above
    rw [← Path.getElem?_ancestors] at habove
    obtain ⟨hlt, hdir⟩ := List.getElem?_eq_some_iff.mp habove
    refine ⟨steps, hlt, hdir, ?_⟩
    intro k hk
    have hpassed : start.up k = some start.ancestors[k] := by
      rw [← Path.getElem?_ancestors, List.getElem?_eq_getElem]
    simpa [HoldsSettings] using h.first k _ hk hpassed

theorem findSettings_eq_none_iff :
    (host.findSettings start w).1 = none ↔
      ∀ n dir, start.up n = some dir → ¬ w.HoldsSettings dir := by
  rw [findSettings_eq, Option.map_eq_none_iff, List.find?_eq_none]
  constructor
  · intro h n dir hdir
    rw [← Path.getElem?_ancestors] at hdir
    exact h dir (List.mem_of_getElem? hdir)
  · intro h dir hdir
    obtain ⟨n, hn⟩ := List.mem_iff_getElem?.mp hdir
    exact h n dir (by rw [← Path.getElem?_ancestors, hn])

/-! ## From every directory below -/

theorem holdsSettings_ofPlace {place : Place} (h : ∀ part ∈ place, Path.IsPart part) (cwd : Place) :
    HoldsSettings { w with cwd } (.ofPlace place) ↔ w.HoldsSettings (.ofPlace place) := by
  unfold HoldsSettings
  rw [Settings.fileIn_ofPlace h]
  rw [FileTree.present_of_isAbsolute (Path.isAbsolute_ofPlace _) cwd w.cwd]

/-- From a place below one that holds a settings file, past others that do not, the search comes to
that one. -/
theorem nearestSettings_ofPlace {top below : Place} {cwd : Place}
    (hparts : ∀ part ∈ top ++ below, Path.IsPart part) (htop : w.HoldsSettings (.ofPlace top))
    (hbelow : ∀ front, front ≠ [] → front <+: below → ¬ w.HoldsSettings (.ofPlace (top ++ front))) :
    NearestSettings { w with cwd } (.ofPlace (top ++ below)) below.length (.ofPlace top) := by
  constructor
  · rw [Path.up_ofPlace hparts (Nat.le_refl _)]
    simp
  · rw [holdsSettings_ofPlace fun part hp => hparts part (List.mem_append_left _ hp)]
    exact htop
  · intro k passed hk hpassed
    rw [Path.up_ofPlace hparts (by omega)] at hpassed
    obtain rfl := Option.some.inj hpassed
    have hpre : below.take (below.length - k) <+: below := List.take_prefix _ _
    have hparts' : ∀ part ∈ top ++ below.take (below.length - k), Path.IsPart part := by
      intro part hp
      apply hparts part
      rcases List.mem_append.mp hp with hp | hp
      · exact List.mem_append_left _ hp
      · exact List.mem_append_right _ (hpre.subset hp)
    rw [holdsSettings_ofPlace hparts']
    apply hbelow _ _ hpre
    intro hnil
    rcases List.take_eq_nil_iff.mp hnil with hzero | rfl
    · omega
    · simp at hk

theorem workingDirectory_of_none (h : w.cwdFault = none) :
    w.workingDirectory = .ok (.ofPlace w.cwd) := by
  rw [workingDirectory, h]

theorem fileSettings_of_cwdFault {cause : FileError} (ho : o.config = none)
    (h : w.cwdFault = some cause) :
    (host.fileSettings o).run w = (.error (.workingDirectory cause), w) := by
  rw [fileSettings_eq, layer, ho, workingDirectory, h]

theorem fileSettings_of_nearest {steps : Nat} (ho : o.config = none)
    (h : w.NearestSettings (.ofPlace w.cwd) steps dir) (hcwd : w.cwdFault = none) :
    (host.fileSettings o).run w = (w.settingsIn (Settings.fileIn dir), w) := by
  have hfind := findSettings_eq_some_iff.mpr ⟨steps, dir, h, rfl⟩
  rw [Host.findSettings, firstPresent_eq] at hfind
  rw [fileSettings_eq, layer, ho, workingDirectory_of_none hcwd]
  dsimp only at hfind ⊢
  rw [hfind]

theorem settingsIn_ofPlace {place : Place} (h : ∀ part ∈ place, Path.IsPart part) (cwd : Place) :
    settingsIn { w with cwd } (Settings.fileIn (.ofPlace place)) =
      w.settingsIn (Settings.fileIn (.ofPlace place)) := by
  unfold settingsIn
  rw [Settings.fileIn_ofPlace h]
  rw [FileTree.readText_of_isAbsolute (Path.isAbsolute_ofPlace _) cwd w.cwd]

theorem anchored_of_settingsIn {place : Place} (h : ∀ part ∈ place, Path.IsPart part) {s : Settings}
    (hs : w.settingsIn (Settings.fileIn (.ofPlace place)) = .ok s) :
    ∃ text read, w.tree.readText w.cwd (Settings.fileIn (.ofPlace place)) = .ok text ∧
      Settings.ofToml? text = some read ∧ s = read.anchored (.ofPlace place) := by
  have hparent : (Settings.fileIn (.ofPlace place)).parent? = some (.ofPlace place) := by
    rw [Settings.fileIn_ofPlace h]
    apply Path.parent?_ofPlace_snoc
    intro part hp
    rcases List.mem_append.mp hp with hp | hp
    · exact h part hp
    · exact List.mem_singleton.mp hp ▸ Settings.isPart_fileName
  unfold settingsIn at hs
  apply Settings.ofContent_eq_ok hparent
  cases hc : Settings.ofContent (Settings.fileIn (.ofPlace place))
      (w.tree.readText w.cwd (Settings.fileIn (.ofPlace place))) with
  | error cause =>
    rw [hc] at hs
    cases hs
  | ok s' =>
    rw [hc] at hs
    rw [Except.ok.inj hs]

/-- The search for settings goes up, and up only so far, to the nearest directory that holds a
settings file. From every directory below that one the same settings are read, or the same failure
comes of it. -/
theorem settings_from_nearest_directory (w : World) :
    (∀ start : Path, (∃ n, start.up n = none) ∧
      (∀ file, (host.findSettings start w).1 = some file ↔
        ∃ steps dir, w.NearestSettings start steps dir ∧ file = Settings.fileIn dir) ∧
      ((host.findSettings start w).1 = none ↔
        ∀ n dir, start.up n = some dir → ¬ w.HoldsSettings dir)) ∧
    ∀ (o : Options) (top below below' : Place), o.config = none →
      (∀ part ∈ top ++ below ++ below', Path.IsPart part) →
      w.HoldsSettings (.ofPlace top) →
      (∀ front, front ≠ [] → front <+: below ∨ front <+: below' →
        ¬ w.HoldsSettings (.ofPlace (top ++ front))) →
      ∃ result : Except Failure Settings,
        ((host.fileSettings o).run { w with cwd := top ++ below }).1 = result ∧
        ((host.fileSettings o).run { w with cwd := top ++ below' }).1 = result ∧
        ∀ s, result = .ok s → ∃ text read,
          w.tree.readText w.cwd (Settings.fileIn (.ofPlace top)) = .ok text ∧
            Settings.ofToml? text = some read ∧ s = read.anchored (.ofPlace top) := by
  constructor
  · intro start
    exact ⟨⟨_, start.up_length_ancestors⟩, fun _ => findSettings_eq_some_iff,
      findSettings_eq_none_iff⟩
  · intro o top below below' ho hparts htop hbelow
    have htopParts : ∀ part ∈ top, Path.IsPart part := fun part hp => hparts part (by simp [hp])
    rcases Option.eq_none_or_eq_some w.cwdFault with hcwd | ⟨cause, hcwd⟩
    case inr =>
      -- The search does not begin, wherever it would have begun.
      have hrun : ∀ cwd, ((host.fileSettings o).run { w with cwd }).1 =
          .error (.workingDirectory cause) := by
        intro cwd
        have hfault : World.cwdFault { w with cwd } = some cause := hcwd
        rw [fileSettings_of_cwdFault ho hfault]
      exact ⟨_, hrun _, hrun _, by simp⟩
    have hrun : ∀ way, (∀ part ∈ top ++ way, Path.IsPart part) →
        (∀ front, front ≠ [] → front <+: way → ¬ w.HoldsSettings (.ofPlace (top ++ front))) →
        ((host.fileSettings o).run { w with cwd := top ++ way }).1 =
          w.settingsIn (Settings.fileIn (.ofPlace top)) := by
      intro way hway hfree
      rw [fileSettings_of_nearest ho (nearestSettings_ofPlace hway htop hfree) hcwd]
      exact settingsIn_ofPlace htopParts _
    refine ⟨w.settingsIn (Settings.fileIn (.ofPlace top)), ?_, ?_, ?_⟩
    · apply hrun below
      · intro part hp
        exact hparts part (List.mem_append_left _ hp)
      · intro front hne hfront
        exact hbelow front hne (.inl hfront)
    · apply hrun below'
      · intro part hp
        rcases List.mem_append.mp hp with hp | hp
        · exact htopParts part hp
        · exact hparts part (List.mem_append_right _ hp)
      · intro front hne hfront
        exact hbelow front hne (.inr hfront)
    · intro s hs
      exact anchored_of_settingsIn htopParts hs

/-- Two directories of one tree, one and two names below the settings file. -/
theorem settings_from_documents_and_sources :
    let w : World :=
      { tree := ⟨[(["w"], .directory), (["w", ".docgate.toml"],
          .file (Text.encode "[output]\nfile = 'build/decision'\n"))]⟩
        cwd := [], input := [], git := none, server := ⟨"127.0.0.1", []⟩, clock := ⟨0, 0⟩ }
    let read : Settings := { file := some ⟨"/w/build/decision"⟩ }
    let o : Options := {}
    o.config = none ∧ (∀ part ∈ ["w"] ++ ["docs"] ++ ["src", "lib"], Path.IsPart part) ∧
      w.HoldsSettings (.ofPlace ["w"]) ∧
      (∀ front, front ≠ [] → front <+: ["docs"] ∨ front <+: ["src", "lib"] →
        ¬ w.HoldsSettings (.ofPlace (["w"] ++ front))) ∧
      ((host.fileSettings o).run { w with cwd := ["w"] ++ ["docs"] }).1 = .ok read ∧
      ((host.fileSettings o).run { w with cwd := ["w"] ++ ["src", "lib"] }).1 = .ok read := by
  intro w read o
  have hparts : ∀ part ∈ ["w"] ++ ["docs"] ++ ["src", "lib"], Path.IsPart part := by
    intro part hp
    have hcases : part = "w" ∨ part = "docs" ∨ part = "src" ∨ part = "lib" := by simpa using hp
    rcases hcases with rfl | rfl | rfl | rfl <;> exact ⟨by decide, by decide, by decide⟩
  have htop : w.HoldsSettings (.ofPlace ["w"]) := by decide +kernel
  have hbelow : ∀ front, front ≠ [] → front <+: ["docs"] ∨ front <+: ["src", "lib"] →
      ¬ w.HoldsSettings (.ofPlace (["w"] ++ front)) := by
    intro front hne hfront
    rw [← List.mem_inits, ← List.mem_inits] at hfront
    have hcases : front = ["docs"] ∨ front = ["src"] ∨ front = ["src", "lib"] := by
      simpa [hne] using hfront
    rcases hcases with rfl | rfl | rfl <;> decide +kernel
  have hread : ((host.fileSettings o).run { w with cwd := ["w"] ++ ["docs"] }).1 = .ok read := by
    decide +kernel
  obtain ⟨result, hdocs, hsources, -⟩ :=
    (settings_from_nearest_directory w).2 o ["w"] ["docs"] ["src", "lib"] rfl hparts htop hbelow
  exact ⟨rfl, hparts, htop, hbelow, hread, hsources.trans (hdocs.symm.trans hread)⟩

end World

end PublishGate
