import PublishGate.FileTree
import PublishGate.Proofs.Path.Ancestors

/-! # What a path says about the paths above it

A path that is reached by going up, unless it is the empty one, is how the path begins: in its text
and in the names that it goes through. -/

namespace PublishGate.Path

variable {a p q : Path} {s : List Char} {part : List Char} {more : List Char}

def IsAbove (a p : Path) : Prop :=
  ∃ n, p.up (n + 1) = some a

/-- The way of `p` begins with that of `q` and goes on behind it. -/
structure Begins (q p : Path) : Prop where
  text : q.text.toList <+: p.text.toList
  isAbsolute : q.isAbsolute = p.isAbsolute
  names : ∃ rest, rest ≠ [] ∧ p.names = q.names ++ rest

theorem Begins.trans (h : Begins a q) (k : Begins q p) : Begins a p := by
  obtain ⟨rest, hrest, hnames⟩ := h.names
  obtain ⟨rest', -, hnames'⟩ := k.names
  refine ⟨h.text.trans k.text, h.isAbsolute.trans k.isAbsolute, rest ++ rest', by simp [hrest], ?_⟩
  rw [hnames', hnames, List.append_assoc]

theorem Begins.text_ne_empty (h : Begins a q) (ha : a.text ≠ "") : q.text ≠ "" := by
  intro hq
  have htext := h.text
  rw [hq, String.toList_empty, List.prefix_nil, String.toList_eq_nil_iff] at htext
  exact ha htext

/-! ## Names in a path -/

theorem names_ne_nil (hne : part ≠ []) (hpart : part ∈ p.text.toList.splitOn '/') :
    p.names ≠ [] := by
  intro hnil
  rw [names, List.map_eq_nil_iff, List.filter_eq_nil_iff] at hnil
  exact hnil part hpart (by simpa using hne)

theorem names_ne_nil_of_not_isAbsolute (hp : p.text ≠ "") (h : p.isAbsolute = false) :
    p.names ≠ [] := by
  obtain ⟨c, s, hs⟩ := List.exists_cons_of_ne_nil (mt String.toList_eq_nil_iff.mp hp)
  have hc : (c == '/') = false := by simpa [isAbsolute, hs] using h
  obtain ⟨part, parts, hparts⟩ := List.exists_cons_of_ne_nil (List.splitOn_ne_nil '/' s)
  apply names_ne_nil (List.cons_ne_nil c part)
  rw [hs, List.splitOn_cons_eq_if_modifyHead, if_neg (by simp [hc]), hparts]
  exact List.mem_cons_self

/-- The names in front of a slash and those behind it are taken one after the other. -/
theorem names_append_slash (hp : p.text.toList = q.text.toList ++ '/' :: more) :
    p.names = q.names ++ names ⟨String.ofList more⟩ := by
  unfold names
  rw [hp, List.splitOn_append_cons_self, List.filter_append, List.map_append,
    String.toList_ofList]

theorem isAbsolute_of_isPrefix (h : q.text.toList <+: p.text.toList) (hq : q.text ≠ "") :
    q.isAbsolute = p.isAbsolute := by
  obtain ⟨more, hp⟩ := h
  obtain ⟨c, rest, hc⟩ := List.exists_cons_of_ne_nil (mt String.toList_eq_nil_iff.mp hq)
  unfold isAbsolute
  rw [← hp, hc]
  rfl

/-- Behind a slash the way goes on, if anything but slashes follows. -/
theorem begins_of_slash (hq : q.text ≠ "") (hp : p.text.toList = q.text.toList ++ '/' :: more)
    (hpart : part ∈ more.splitOn '/') (hne : part ≠ []) : Begins q p := by
  have htext : q.text.toList <+: p.text.toList := ⟨_, hp.symm⟩
  refine ⟨htext, isAbsolute_of_isPrefix htext hq, _, ?_, names_append_slash hp⟩
  apply names_ne_nil hne
  rwa [String.toList_ofList]

/-! ## Parents -/

theorem start_cases (s : List Char) :
    (start s).1 = [] ∨ (start s).1 = ['/'] ∨
      (start s).1 = ['.'] ∧ ((start s).2 = [] ∨ ∃ rest, (start s).2 = '/' :: rest) := by
  unfold start
  split <;> simp

/-- The parts of a path that has a parent: those that the parent keeps, and behind them one that is
not empty. -/
theorem parent?_eq_some (h : p.parent? = some q) (hq : q.text ≠ "") :
    ∃ kept behind part, part ∈ behind ∧ part ≠ [] ∧
      (start p.text.toList).2.splitOn '/' = kept ++ behind ∧
      q.text.toList = (start p.text.toList).1 ++ ['/'].intercalate kept := by
  rcases parent?_eq_some_iff.mp h with ⟨-, -, hempty⟩ | ⟨init, last, hp, htext⟩
  · exact absurd hempty hq
  · have hlast : last ≠ [] := by
      rintro rfl
      exact absurd (dropIdle_eq_snoc hp) (by decide)
    obtain ⟨idle, hpieces⟩ := dropIdle_isPrefix ((start p.text.toList).2.splitOn '/')
    obtain ⟨skipped, hinit⟩ := dropIdle_isPrefix init
    refine ⟨dropIdle init, skipped ++ [last] ++ idle, last, by simp, hlast, ?_, htext⟩
    calc (start p.text.toList).2.splitOn '/'
        = init ++ [last] ++ idle := by rw [← hp, hpieces]
      _ = dropIdle init ++ skipped ++ [last] ++ idle := by rw [hinit]
      _ = dropIdle init ++ (skipped ++ [last] ++ idle) := by simp

theorem begins_of_parent? (h : p.parent? = some q) (hq : q.text ≠ "") : Begins q p := by
  obtain ⟨kept, behind, part, hpart, hne, hpieces, htext⟩ := parent?_eq_some h hq
  have hsplit := start_append p.text.toList
  have hstart := start_cases p.text.toList
  generalize (start p.text.toList).1 = front at htext hsplit hstart
  generalize (start p.text.toList).2 = body at hpieces hsplit hstart
  by_cases hkept : kept = []
  · -- Only the start is left: the root, or the point for the directory one is in.
    rw [hkept, List.intercalate_nil, List.append_nil] at htext
    rw [hkept, List.nil_append] at hpieces
    rw [← htext] at hsplit hstart
    rcases hstart with hnil | hroot | ⟨-, rfl | ⟨rest, rfl⟩⟩
    · exact absurd (String.toList_eq_nil_iff.mp hnil) hq
    · have hlead : q.text.toList <+: p.text.toList := ⟨body, hsplit⟩
      have hnames : p.names = q.names ++ p.names := by
        simp [names, hroot, List.splitOn_cons_eq_if_modifyHead]
      refine ⟨hlead, isAbsolute_of_isPrefix hlead hq, p.names, ?_, hnames⟩
      apply names_ne_nil hne
      rw [← hsplit, hroot, List.singleton_append, List.splitOn_cons_eq_if_modifyHead,
        if_pos (by rfl), hpieces]
      exact List.mem_cons_of_mem _ hpart
    · obtain rfl : part = [] := by simpa [← hpieces] using hpart
      exact absurd rfl hne
    · rw [List.splitOn_cons_eq_if_modifyHead, if_pos (by rfl)] at hpieces
      rw [← hpieces] at hpart
      exact begins_of_slash hq hsplit.symm ((List.mem_cons.mp hpart).resolve_left hne) hne
  · have hbehind : behind ≠ [] := List.ne_nil_of_mem hpart
    have hp : p.text.toList = q.text.toList ++ '/' :: ['/'].intercalate behind := by
      rw [← hsplit, htext, List.append_assoc, ← intercalate_append hkept hbehind, ← hpieces,
        List.intercalate_splitOn]
    have hslash : ∀ other ∈ behind, '/' ∉ other := by
      intro other ho
      exact not_slash_of_mem_splitOn (hpieces ▸ List.mem_append_right kept ho)
    apply begins_of_slash hq hp _ hne
    rwa [List.splitOn_intercalate '/' hslash hbehind]

/-! ## All paths above -/

theorem begins_of_up {n : Nat} (h : p.up (n + 1) = some a) (ha : a.text ≠ "") : Begins a p := by
  induction n generalizing p with
  | zero =>
    obtain ⟨q, hq, hup⟩ := Option.bind_eq_some_iff.mp h
    obtain rfl := Option.some.inj hup
    exact begins_of_parent? hq ha
  | succ n ih =>
    obtain ⟨q, hq, hup⟩ := Option.bind_eq_some_iff.mp h
    have hbegins : Begins a q := ih hup
    exact hbegins.trans (begins_of_parent? hq (hbegins.text_ne_empty ha))

theorem IsAbove.begins (h : a.IsAbove p) (ha : a.text ≠ "") : Begins a p := by
  obtain ⟨n, hn⟩ := h
  exact begins_of_up hn ha

theorem isAbove_of_mem_ancestors (hq : p.parent? = some q) (h : a ∈ q.ancestors) :
    a.IsAbove p := by
  obtain ⟨k, hk⟩ := List.mem_iff_getElem?.mp h
  rw [getElem?_ancestors] at hk
  refine ⟨k, ?_⟩
  rw [up, hq, Option.bind_some, hk]

end PublishGate.Path
