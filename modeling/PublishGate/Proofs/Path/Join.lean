import PublishGate.Proofs.Path.Above

/-! # Joining paths

Points and doubled slashes change the text of a path and not its components. Joining puts the
components of one path behind those of the other, and going up takes the last one away. So it does
not matter whether a path is joined to a base before or after going up. -/

namespace PublishGate.Path

variable {base dir p q : Path} {s front body : List Char} {parts : List (List Char)}

/-! ## The text of a joined path -/

theorem join_of_isAbsolute (base : Path) (hp : p.isAbsolute = true) : base.join p = p :=
  if_pos hp

theorem join_of_empty (hbase : base.text = "") (p : Path) : base.join p = p := by
  unfold join
  rw [hbase]
  split <;> rfl

theorem join_of_not_slash {base p : Path} (hp : p.isAbsolute = false) {c : Char}
    (hlast : base.text.toList.getLast? = some c) (hc : c ≠ '/') :
    base.join p = ⟨base.text ++ "/" ++ p.text⟩ := by
  unfold join
  rw [if_neg (by simp [hp]), hlast]
  split
  next he => simp at he
  next he => exact absurd (Option.some.inj he) hc
  next => rfl

/-- Between the base and what is joined to it stands a slash, which may be the last one of the
base. -/
theorem exists_front_of_join (hbase : base.text ≠ "") (hp : p.isAbsolute = false) :
    ∃ front, (base.text.toList = front ∨ base.text.toList = front ++ ['/']) ∧
      (base.join p).text.toList = front ++ '/' :: p.text.toList := by
  obtain ⟨front, c, hc⟩ :=
    (List.eq_nil_or_concat' base.text.toList).resolve_left (mt String.toList_eq_nil_iff.mp hbase)
  have hlast : base.text.toList.getLast? = some c := by rw [hc, List.getLast?_concat]
  by_cases hslash : c = '/'
  · refine ⟨front, .inr (hslash ▸ hc), ?_⟩
    unfold join
    rw [if_neg (by simp [hp]), hlast, hslash]
    simp [hc, hslash]
  · refine ⟨base.text.toList, .inl rfl, ?_⟩
    rw [join_of_not_slash hp hlast hslash]
    simp

theorem isAbsolute_join (base : Path) (hp : p.isAbsolute = false) :
    (base.join p).isAbsolute = base.isAbsolute := by
  by_cases hbase : base.text = ""
  · rw [join_of_empty hbase, hp, isAbsolute, hbase]
    rfl
  · obtain ⟨front, hfront, htext⟩ := exists_front_of_join hbase hp
    have hlead : base.text.toList <+: (base.join p).text.toList := by
      rw [htext]
      rcases hfront with hfront | hfront
      · exact ⟨'/' :: p.text.toList, by rw [hfront]⟩
      · exact ⟨p.text.toList, by simp [hfront]⟩
    exact (isAbsolute_of_isPrefix hlead hbase).symm

theorem names_join (base : Path) (hp : p.isAbsolute = false) :
    (base.join p).names = base.names ++ p.names := by
  by_cases hbase : base.text = ""
  · have hnil : base.names = [] := by simp [names, hbase]
    rw [join_of_empty hbase, hnil, List.nil_append]
  · obtain ⟨front, hfront, htext⟩ := exists_front_of_join hbase hp
    have hnames : base.names = names ⟨String.ofList front⟩ := by
      rcases hfront with hfront | hfront
      · rw [← hfront, String.ofList_toList]
      · rw [names_append_slash (q := ⟨String.ofList front⟩) (by rw [hfront, String.toList_ofList])]
        exact List.append_nil _
    rw [names_append_slash (q := ⟨String.ofList front⟩) (by rw [htext, String.toList_ofList]),
      hnames, String.ofList_toList]

/-! ## The steps of a path -/

def steps (s : List Char) : List (List Char) :=
  (s.splitOn '/').filter (!isIdle ·)

theorem steps_append_slash (s more : List Char) :
    steps (s ++ '/' :: more) = steps s ++ steps more := by
  unfold steps
  rw [List.splitOn_append_cons_self, List.filter_append]

theorem steps_intercalate (h : ∀ part ∈ parts, '/' ∉ part) :
    steps (['/'].intercalate parts) = parts.filter (!isIdle ·) := by
  by_cases hparts : parts = []
  · rw [hparts]
    rfl
  · rw [steps, List.splitOn_intercalate '/' h hparts]

/-- No start of a path is a step. -/
theorem steps_front (h : front = [] ∨ front = ['/'] ∨
    front = ['.'] ∧ (body = [] ∨ ∃ rest, body = '/' :: rest)) :
    steps (front ++ body) = steps body := by
  rcases h with rfl | rfl | ⟨rfl, rfl | ⟨rest, rfl⟩⟩
  · rfl
  · exact steps_append_slash [] body
  · rfl
  · exact (steps_append_slash ['.'] rest).trans (steps_append_slash [] rest).symm

theorem steps_start (s : List Char) : steps (start s).2 = steps s := by
  have hfront := steps_front (start_cases s)
  rw [start_append] at hfront
  exact hfront.symm

theorem components_of_isAbsolute (h : p.isAbsolute = true) :
    p.components = ['/'] :: steps p.text.toList := by
  have hhead : p.text.toList.head? = some '/' := beq_iff_eq.mp h
  obtain ⟨body, hbody⟩ := List.head?_eq_some_iff.mp hhead
  have hstart : start p.text.toList = (['/'], body) := by rw [hbody]; rfl
  rw [← steps_start, components, hstart]
  rfl

theorem steps_join (base : Path) (hp : p.isAbsolute = false) :
    steps (base.join p).text.toList = steps base.text.toList ++ steps p.text.toList := by
  by_cases hbase : base.text = ""
  · rw [join_of_empty hbase, hbase]
    rfl
  · obtain ⟨front, hfront, htext⟩ := exists_front_of_join hbase hp
    have hsteps : steps base.text.toList = steps front := by
      rcases hfront with hfront | hfront
      · rw [hfront]
      · rw [hfront, steps_append_slash]
        exact List.append_nil _
    rw [htext, steps_append_slash, hsteps]

/-! ## Going up -/

theorem filter_dropIdle (parts : List (List Char)) :
    (dropIdle parts).filter (!isIdle ·) = parts.filter (!isIdle ·) := by
  have hdrop : ∀ parts : List (List Char),
      (parts.dropWhile isIdle).filter (!isIdle ·) = parts.filter (!isIdle ·) := by
    intro parts
    induction parts with
    | nil => rfl
    | cons part parts ih =>
      by_cases hidle : isIdle part = true
      · rw [List.dropWhile_cons_of_pos hidle, ih, List.filter_cons_of_neg (by simp [hidle])]
      · rw [List.dropWhile_cons_of_neg hidle]
  unfold dropIdle
  rw [List.filter_reverse, hdrop, List.filter_reverse, List.reverse_reverse]

theorem steps_eq_filter_dropIdle (s : List Char) :
    steps s = (dropIdle ((start s).2.splitOn '/')).filter (!isIdle ·) := by
  rw [filter_dropIdle, ← steps_start]
  rfl

theorem exists_parent? (h : steps p.text.toList ≠ []) : ∃ q, p.parent? = some q := by
  rcases List.eq_nil_or_concat' (dropIdle ((start p.text.toList).2.splitOn '/')) with
    hnil | ⟨init, last, hp⟩
  · rw [steps_eq_filter_dropIdle, hnil] at h
    exact absurd rfl h
  · exact ⟨⟨String.ofList ((start p.text.toList).1 ++ ['/'].intercalate (dropIdle init))⟩,
      parent?_eq_some_iff.mpr (.inr ⟨init, last, hp, String.toList_ofList⟩)⟩

theorem isAbsolute_of_parent? (h : p.parent? = some q) : q.isAbsolute = p.isAbsolute := by
  by_cases hq : q.text = ""
  · -- only a relative path has the empty one as its parent
    have hfront : (start p.text.toList).1 ≠ ['/'] := by
      rcases parent?_eq_some_iff.mp h with ⟨-, hpoint, -⟩ | ⟨init, last, -, htext⟩
      · simp [hpoint]
      · intro hroot
        rw [hq, hroot] at htext
        cases htext
    have hp : p.isAbsolute = false := by
      by_contra habs
      have hhead : p.text.toList.head? = some '/' := by simpa [isAbsolute] using habs
      obtain ⟨body, hbody⟩ := List.head?_eq_some_iff.mp hhead
      rw [hbody] at hfront
      exact hfront rfl
    rw [hp, isAbsolute, hq]
    rfl
  · exact (begins_of_parent? h hq).isAbsolute

/-- Going up takes the last step back. -/
theorem steps_parent? (h : p.parent? = some q) :
    steps q.text.toList = (steps p.text.toList).dropLast := by
  rcases parent?_eq_some_iff.mp h with ⟨hnil, -, hq⟩ | ⟨init, last, hp, htext⟩
  · rw [steps_eq_filter_dropIdle p.text.toList, hnil, hq]
    rfl
  · have hinit : dropIdle init <+: (start p.text.toList).2.splitOn '/' := by
      refine (dropIdle_isPrefix init).trans ((List.prefix_append init [last]).trans ?_)
      exact hp ▸ dropIdle_isPrefix _
    have hslash : ∀ part ∈ dropIdle init, '/' ∉ part :=
      fun part hpart => not_slash_of_mem_splitOn (hinit.subset hpart)
    have hstart := start_cases p.text.toList
    have hkept := intercalate_isPrefix hinit
    rw [List.intercalate_splitOn] at hkept
    have hfront : steps q.text.toList = steps (['/'].intercalate (dropIdle init)) := by
      rw [htext]
      apply steps_front
      refine hstart.imp_right (Or.imp_right (And.imp_right fun hbody => ?_))
      rcases hbody with hnil | ⟨rest, hrest⟩
      · rw [hnil, List.prefix_nil] at hkept
        exact .inl hkept
      · rw [hrest, List.prefix_cons_iff] at hkept
        exact hkept.imp_right fun ⟨more, hmore, _⟩ => ⟨more, hmore⟩
    have hlast : isIdle last = false := dropIdle_eq_snoc hp
    rw [hfront, steps_intercalate hslash, filter_dropIdle, steps_eq_filter_dropIdle p.text.toList, hp,
      List.filter_append, List.filter_cons_of_pos (by simp [hlast]), List.filter_nil,
      List.dropLast_concat]

/-- Joined to the parent of `p` and then to the base, a path has the same components as it has when
joined to the parent of what `p` becomes behind the base. -/
theorem components_join_parent? {up up' : Path} (hbase : base.isAbsolute = true)
    (hp : p.isAbsolute = false) (hsteps : steps p.text.toList ≠ []) (hup : p.parent? = some up)
    (hup' : (base.join p).parent? = some up') (q : Path) :
    (base.join (up.join q)).components = (up'.join q).components := by
  by_cases hq : q.isAbsolute = true
  · rw [join_of_isAbsolute up hq, join_of_isAbsolute up' hq, join_of_isAbsolute base hq]
  · have hq : q.isAbsolute = false := Bool.eq_false_iff.mpr hq
    have hrelative : (up.join q).isAbsolute = false := by
      rw [isAbsolute_join up hq, isAbsolute_of_parent? hup, hp]
    have hjoined : (base.join (up.join q)).isAbsolute = true := by
      rw [isAbsolute_join base hrelative, hbase]
    have hjoined' : (up'.join q).isAbsolute = true := by
      rw [isAbsolute_join up' hq, isAbsolute_of_parent? hup', isAbsolute_join base hp, hbase]
    have hsame : steps (base.join (up.join q)).text.toList = steps (up'.join q).text.toList :=
      calc steps (base.join (up.join q)).text.toList
          = steps base.text.toList ++ ((steps p.text.toList).dropLast ++ steps q.text.toList) := by
            rw [steps_join base hrelative, steps_join up hq, steps_parent? hup]
        _ = (steps base.text.toList ++ steps p.text.toList).dropLast ++ steps q.text.toList := by
            rw [List.dropLast_append_of_ne_nil hsteps, List.append_assoc]
        _ = steps (up'.join q).text.toList := by
            rw [steps_join up' hq, steps_parent? hup', steps_join base hp]
    rw [components_of_isAbsolute hjoined, components_of_isAbsolute hjoined', hsame]

end PublishGate.Path
