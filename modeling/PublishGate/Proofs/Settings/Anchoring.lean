import PublishGate.Proofs.FileTree.Directories
import PublishGate.Proofs.Settings.Discovery

/-! # Settings named by a relative and by an absolute path

A relative path to a settings file means the same as that path joined to any name of the directory
one is in. The output file that comes of it is the same one. -/

namespace PublishGate

namespace FileTree

variable {t : FileTree} {cwd place : Place} {dir p : Path} {node : Node} {names : List String}

/-! ## What joined paths lead to -/

theorem fault?_join (hdir : dir.fault? = none) (hp : p.isAbsolute = false) (hne : p.text ≠ "") :
    (dir.join p).fault? = p.fault? := by
  have hempty : dir.text ≠ "" := text_ne_empty_of_fault? hdir
  obtain ⟨front, hfront, htext⟩ := Path.exists_front_of_join hempty hp
  have hjoined : (dir.join p).text ≠ "" := by
    intro he
    simp [he] at htext
  have hnul : '\x00' ∉ dir.text.toList := by
    intro hmem
    simp [Path.fault?, hempty, hmem] at hdir
  have hfrontNul : '\x00' ∉ front := by
    rcases hfront with hfront | hfront
    · exact hfront ▸ hnul
    · exact fun hmem => hnul (hfront ▸ List.mem_append_left _ hmem)
  unfold Path.fault?
  rw [if_neg hne, if_neg hjoined, htext]
  simp [hfrontNul]

theorem endsInSlash_join (hdir : dir.text ≠ "") (hp : p.isAbsolute = false) (hne : p.text ≠ "") :
    (dir.join p).endsInSlash = p.endsInSlash := by
  have hlist : p.text.toList ≠ [] := mt String.toList_eq_nil_iff.mp hne
  obtain ⟨front, -, htext⟩ := Path.exists_front_of_join hdir hp
  unfold Path.endsInSlash
  rw [htext, List.getLast?_append_of_ne_nil _ (by simp), List.getLast?_cons_of_ne_nil hlist]

/-- A path joined to one that leads to a directory leads to what the path leads to from there. -/
theorem find_join (hdir : t.find cwd dir = .ok (place, .directory)) (hp : p.isAbsolute = false)
    (hne : p.text ≠ "") : t.find cwd (dir.join p) = t.find place p := by
  obtain ⟨hs, hway, -, -⟩ := find_eq_ok_iff.mp hdir
  have hbase : (dir.join p).base cwd = dir.base cwd := by
    simp [Path.base, Path.isAbsolute_join dir hp]
  have hstart : p.base place = place := by simp [Path.base, hp]
  have hfollow : t.follow ((dir.join p).base cwd) (dir.join p).names =
      t.follow (p.base place) p.names := by
    rw [hbase, hstart, Path.names_join dir hp, follow_append hway]
  unfold find
  rw [fault?_join hs hp hne, hfollow, endsInSlash_join (text_ne_empty_of_fault? hs) hp hne]

theorem present_join (hdir : t.find cwd dir = .ok (place, .directory)) (hp : p.isAbsolute = false)
    (hne : p.text ≠ "") : t.present cwd (dir.join p) = t.present place p := by
  unfold present
  rw [find_join hdir hp hne]

theorem readText_join (hdir : t.find cwd dir = .ok (place, .directory)) (hp : p.isAbsolute = false)
    (hne : p.text ≠ "") : t.readText cwd (dir.join p) = t.readText place p := by
  unfold readText readBytes
  rw [find_join hdir hp hne]

theorem follow_points (hplace : t.directory place = .ok ()) (h : ∀ name ∈ names, name = ".") :
    t.follow place names = .ok place := by
  induction names with
  | nil => rfl
  | cons name names ih =>
    obtain ⟨hname, hnames⟩ := List.forall_mem_cons.mp h
    rw [follow, hplace, hname]
    exact ih hnames

/-- A relative path without a step leads to the directory one is in. -/
theorem steps_ne_nil_of_find (hcwd : t.get? cwd = some .directory) (hp : p.isAbsolute = false)
    (hf : t.find cwd p = .ok (place, node)) (hnode : node ≠ .directory) :
    Path.steps p.text.toList ≠ [] := by
  intro hsteps
  obtain ⟨-, hway, hget, -⟩ := find_eq_ok_iff.mp hf
  have hpoints : ∀ name ∈ p.names, name = "." := by
    intro name hname
    obtain ⟨part, hpart, rfl⟩ := List.mem_map.mp hname
    obtain ⟨hmem, hempty⟩ := List.mem_filter.mp hpart
    have hidle := List.filter_eq_nil_iff.mp hsteps part hmem
    obtain rfl : part = ['.'] := by simpa [Path.isIdle, hempty] using hidle
    rfl
  have hstart : p.base cwd = cwd := by simp [Path.base, hp]
  rw [hstart, follow_points (directory_eq_ok.mpr hcwd) hpoints] at hway
  obtain rfl := Except.ok.inj hway
  rw [hcwd] at hget
  exact hnode (Option.some.inj hget).symm

theorem exists_find_of_readText {text : String} (h : t.readText cwd p = .ok text) :
    ∃ place node, t.find cwd p = .ok (place, node) ∧ node ≠ .directory := by
  unfold readText readBytes at h
  cases hf : t.find cwd p with
  | error e =>
    rw [hf] at h
    cases h
  | ok found =>
    obtain ⟨place, node⟩ := found
    refine ⟨place, node, rfl, ?_⟩
    rintro rfl
    rw [hf] at h
    cases h

end FileTree

namespace World

variable {w : World} {dir file p : Path} {s : Settings}

theorem fileSettings_of_config (hthere : w.tree.present w.cwd file = true)
    (hload : (host.loadSettings file w).1 = .ok s) (o : Options) :
    (host.fileSettings { o with config := some file }).run w = (.ok s, w) := by
  rw [loadSettings_eq hthere] at hload
  rw [fileSettings_eq, layer]
  dsimp only at hload ⊢
  rw [if_pos hthere, settingsIn, hload]
  rfl

/-- Settings that are read through a relative path are read as well through that path joined to the
directory one is in. A relative output file is then the same one, by its components, and an absolute
one stays as it is. -/
theorem loadSettings_join (hdir : dir.isAbsolute = true)
    (hcwd : w.tree.find w.cwd dir = .ok (w.cwd, .directory)) (hp : p.isAbsolute = false)
    (hthere : w.tree.present w.cwd p = true) (hload : (host.loadSettings p w).1 = .ok s) :
    ∃ text read s', w.tree.readText w.cwd p = .ok text ∧ Settings.ofToml? text = some read ∧
      host.loadSettings (dir.join p) w = (.ok s', w) ∧
      (∀ o : Options, (host.fileSettings { o with config := some p }).run w = (.ok s, w) ∧
        (host.fileSettings { o with config := some (dir.join p) }).run w = (.ok s', w)) ∧
      { s with file := read.file } = read ∧ { s' with file := read.file } = read ∧
      (read.file = none → s.file = none ∧ s'.file = none) ∧
      ∀ file, read.file = some file → ∃ out out', s.file = some out ∧ s'.file = some out' ∧
        (dir.join out).components = out'.components ∧
        (file.isAbsolute = true → out = file ∧ out' = file) := by
  have hconfig := fileSettings_of_config hthere hload
  rw [loadSettings_eq hthere] at hload
  obtain ⟨text, read, hcontent, hread, hs⟩ := Settings.ofContent_eq_ok_iff.mp hload
  obtain ⟨place, node, hfind, hnode⟩ := FileTree.exists_find_of_readText hcontent
  have hempty : p.text ≠ "" :=
    FileTree.text_ne_empty_of_fault? (FileTree.find_eq_ok_iff.mp hfind).1
  have hthere' : w.tree.present w.cwd (dir.join p) = true :=
    (FileTree.present_join hcwd hp hempty).trans hthere
  have hcontent' : w.tree.readText w.cwd (dir.join p) = .ok text :=
    (FileTree.readText_join hcwd hp hempty).trans hcontent
  have hsteps : Path.steps p.text.toList ≠ [] :=
    FileTree.steps_ne_nil_of_find (FileTree.find_eq_ok_iff.mp hcwd).2.2.1 hp hfind hnode
  obtain ⟨up, hup⟩ := Path.exists_parent? hsteps
  obtain ⟨up', hup'⟩ : ∃ up', (dir.join p).parent? = some up' := by
    apply Path.exists_parent?
    rw [Path.steps_join dir hp]
    exact List.append_ne_nil_of_right_ne_nil _ hsteps
  rw [hup] at hs
  have hload' : host.loadSettings (dir.join p) w = (.ok (read.anchored up'), w) := by
    rw [loadSettings_eq hthere', hcontent', Settings.ofContent, hread, hup']
  have hconfig' := fileSettings_of_config hthere' (congrArg Prod.fst hload')
  refine ⟨text, read, read.anchored up', hcontent, hread, hload', fun o => ⟨hconfig o, hconfig' o⟩,
    by rw [hs]; rfl, rfl, ?_, ?_⟩
  · intro hnone
    simp [hs, Settings.anchored, hnone]
  · intro file hfile
    refine ⟨up.join file, up'.join file, by simp [hs, Settings.anchored, hfile],
      by simp [Settings.anchored, hfile], ?_, ?_⟩
    · exact Path.components_join_parent? hdir hp hsteps hup hup' file
    · intro habs
      exact ⟨Path.join_of_isAbsolute up habs, Path.join_of_isAbsolute up' habs⟩

/-- Both ways to the file go up from the directory one is in and down again. -/
theorem loadSettings_join_up_and_down :
    let w : World :=
      { tree := ⟨[(["w"], .directory), (["w", "docs"], .directory), (["w", "conf"], .directory),
          (["w", "conf", "gate.toml"],
            .file (Text.encode "[output]\nfile = \"./build//flag.env\"\n"))]⟩
        cwd := ["w", "docs"]
        input := [], git := none, server := ⟨"127.0.0.1", []⟩, clock := ⟨0, 0⟩ }
    let dir : Path := ⟨"/w//docs/."⟩
    let p : Path := ⟨".././conf//gate.toml"⟩
    let s : Settings := { file := some ⟨".././conf/./build//flag.env"⟩ }
    dir.isAbsolute = true ∧ w.tree.find w.cwd dir = .ok (w.cwd, .directory) ∧
      p.isAbsolute = false ∧ w.tree.present w.cwd p = true ∧
      (host.loadSettings p w).1 = .ok s ∧
      ∃ s' out', host.loadSettings (dir.join p) w = (.ok s', w) ∧ s'.file = some out' ∧
        out'.components =
          ["/", "w", "docs", "..", "conf", "build", "flag.env"].map String.toList := by
  intro w dir p s
  have hdir : dir.isAbsolute = true := by decide
  have hp : p.isAbsolute = false := by decide
  have hcwd : w.tree.find w.cwd dir = .ok (w.cwd, .directory) := by decide +kernel
  have hthere : w.tree.present w.cwd p = true := by decide +kernel
  have hload : (host.loadSettings p w).1 = .ok s := by decide +kernel
  obtain ⟨text, read, s', hcontent, hread, hload', -, -, -, -, hfile⟩ :=
    loadSettings_join hdir hcwd hp hthere hload
  have hwritten : (w.tree.readText w.cwd p).toOption.bind Settings.ofToml? =
      some { file := some ⟨"./build//flag.env"⟩ } := by
    decide +kernel
  rw [hcontent] at hwritten
  obtain rfl := Option.some.inj (hread.symm.trans hwritten)
  obtain ⟨out, out', hout, hout', hcomponents, -⟩ := hfile _ rfl
  obtain rfl := Option.some.inj hout
  refine ⟨hdir, hcwd, hp, hthere, hload, s', out', hload', hout', hcomponents.symm.trans ?_⟩
  decide +kernel

end World

end PublishGate
