import Mathlib.Data.List.Basic
import Mathlib.Data.List.Induction
import PublishGate.Path
import PublishGate.Proofs.Text.Pieces

/-! # Going up from a path

A parent is a shorter text than the path it is the parent of, so the way up from any path ends, and
the ancestors of a path are all the paths on that way. -/

namespace PublishGate.Path

variable {p q : Path} {s : List Char} {part : List Char} {parts others : List (List Char)}

def up : Nat → Path → Option Path
  | 0, p => some p
  | n + 1, p => p.parent?.bind (up n)

/-! ## Parts of a path -/

theorem start_append (s : List Char) : (start s).1 ++ (start s).2 = s := by
  unfold start
  split <;> simp

theorem intercalate_append (hparts : parts ≠ []) (hothers : others ≠ []) :
    ['/'].intercalate (parts ++ others) =
      ['/'].intercalate parts ++ '/' :: ['/'].intercalate others := by
  induction parts with
  | nil => exact absurd rfl hparts
  | cons first parts ih =>
    cases parts with
    | nil => simp [List.intercalate_cons_of_ne_nil hothers]
    | cons next rest =>
      have hcons : (next :: rest) ++ others ≠ [] := by simp
      rw [List.cons_append, List.intercalate_cons_of_ne_nil hcons, ih (by simp),
        List.intercalate_cons_cons, List.append_assoc _ (['/'].intercalate _)]

theorem intercalate_snoc (h : parts ≠ []) (part : List Char) :
    ['/'].intercalate (parts ++ [part]) = ['/'].intercalate parts ++ '/' :: part := by
  rw [intercalate_append h (List.cons_ne_nil part []), List.intercalate_singleton]

theorem length_intercalate_snoc (h : part ≠ []) :
    (['/'].intercalate parts).length < (['/'].intercalate (parts ++ [part])).length := by
  have hpart := List.length_pos_iff.mpr h
  cases parts with
  | nil => simpa using hpart
  | cons first parts =>
    rw [intercalate_snoc (by simp)]
    simp

theorem intercalate_isPrefix (h : parts <+: others) :
    ['/'].intercalate parts <+: ['/'].intercalate others := by
  obtain ⟨more, rfl⟩ := h
  by_cases hparts : parts = []
  · simp [hparts]
  · by_cases hmore : more = []
    · simp [hmore]
    · rw [intercalate_append hparts hmore]
      exact List.prefix_append _ _

theorem not_slash_of_mem_splitOn (h : part ∈ s.splitOn '/') : '/' ∉ part := by
  intro hc
  exact absurd (Text.not_sep_of_mem_splitOnP h hc) (by decide)

theorem dropIdle_isPrefix (parts : List (List Char)) : dropIdle parts <+: parts := by
  unfold dropIdle
  rw [← List.reverse_suffix, List.reverse_reverse]
  exact List.dropWhile_suffix _

/-- What is left ends in a part that says something. -/
theorem dropIdle_eq_snoc (h : dropIdle parts = others ++ [part]) : isIdle part = false := by
  unfold dropIdle at h
  rw [List.reverse_eq_iff, List.reverse_append, List.reverse_singleton, List.singleton_append] at h
  have hhead := List.head_dropWhile_not isIdle (l := parts.reverse) (by simp [h])
  simpa [h] using hhead

theorem dropIdle_snoc (h : isIdle part = false) : dropIdle (parts ++ [part]) = parts ++ [part] := by
  unfold dropIdle
  rw [List.reverse_append, List.reverse_singleton, List.singleton_append,
    List.dropWhile_cons_of_neg (by simp [h])]
  simp

theorem isIdle_nil : isIdle [] = true := rfl

/-! ## Parents -/

/-- The parent ends in front of the last part that says something, and of idle ones before that. Of
the paths without such a part only the point has a parent. -/
theorem parent?_eq_some_iff :
    p.parent? = some q ↔
      (dropIdle ((start p.text.toList).2.splitOn '/') = [] ∧
        (start p.text.toList).1 = ['.'] ∧ q.text = "") ∨
      ∃ init last,
        dropIdle ((start p.text.toList).2.splitOn '/') = init ++ [last] ∧
          q.text.toList = (start p.text.toList).1 ++ ['/'].intercalate (dropIdle init) := by
  unfold parent?
  dsimp only
  obtain ⟨text⟩ := q
  rcases List.eq_nil_or_concat' (dropIdle ((start p.text.toList).2.splitOn '/')) with
    hnil | ⟨init, last, hp⟩
  · rw [hnil]
    by_cases hfront : (start p.text.toList).1 = ['.']
    · simp [hfront, @eq_comm _ "" text]
    · simp [hfront]
  · rw [hp]
    split
    next he => simp at he
    next =>
      rw [List.dropLast_concat, Option.some.injEq, Path.mk.injEq]
      constructor
      · rintro rfl
        exact .inr ⟨init, last, rfl, by simp⟩
      · rintro (⟨he, -⟩ | ⟨init', last', he, htext⟩)
        · simp at he
        · obtain ⟨rfl, -⟩ : init = init' ∧ last = last' := by simpa using he
          rw [← htext, String.ofList_toList]

theorem length_lt_of_parent? (h : p.parent? = some q) : q.text.length < p.text.length := by
  have hsplit := start_append p.text.toList
  have hparent := parent?_eq_some_iff.mp h
  generalize (start p.text.toList).1 = front at hsplit hparent
  generalize (start p.text.toList).2 = body at hsplit hparent
  rw [← String.length_toList, ← String.length_toList, ← hsplit]
  rcases hparent with ⟨-, rfl, htext⟩ | ⟨init, last, hp, htext⟩
  · simp [htext]
  · have hlast : last ≠ [] := by
      rintro rfl
      have hidle := dropIdle_eq_snoc hp
      rw [isIdle_nil] at hidle
      exact absurd hidle (by decide)
    have hinit : (['/'].intercalate (dropIdle init)).length < body.length := by
      calc (['/'].intercalate (dropIdle init)).length
          ≤ (['/'].intercalate init).length :=
            (intercalate_isPrefix (dropIdle_isPrefix init)).length_le
        _ < (['/'].intercalate (init ++ [last])).length := length_intercalate_snoc hlast
        _ ≤ (['/'].intercalate (body.splitOn '/')).length :=
            (intercalate_isPrefix (hp ▸ dropIdle_isPrefix _)).length_le
        _ = body.length := by rw [List.intercalate_splitOn]
    rw [htext, List.length_append, List.length_append]
    omega

/-! ## Ancestors -/

theorem up_succ (n : Nat) (p : Path) : up (n + 1) p = (up n p).bind parent? := by
  induction n generalizing p with
  | zero => cases h : p.parent? <;> simp [up, h]
  | succ n ih =>
    rw [up]
    cases h : p.parent? with
    | none => simp [up, h]
    | some q => simp [up, h, ← ih]

theorem getElem?_ancestorsWithin {n : Nat} (h : p.text.length ≤ n) (k : Nat) :
    (ancestorsWithin n p)[k]? = up k p := by
  induction n generalizing p k with
  | zero =>
    have hnone : p.parent? = none := by
      cases hp : p.parent? with
      | none => rfl
      | some q =>
        have := length_lt_of_parent? hp
        omega
    cases k with
    | zero => rfl
    | succ k => simp [ancestorsWithin, up, hnone]
  | succ n ih =>
    cases k with
    | zero => rfl
    | succ k =>
      cases hp : p.parent? with
      | none => simp [ancestorsWithin, up, hp]
      | some q =>
        have hlt := length_lt_of_parent? hp
        simp [ancestorsWithin, up, hp, ih (by omega : q.text.length ≤ n)]

/-- The ancestors are the paths on the way up, none left out. -/
theorem getElem?_ancestors (p : Path) (k : Nat) : p.ancestors[k]? = p.up k :=
  getElem?_ancestorsWithin (Nat.le_refl _) k

/-- The way up ends. -/
theorem up_length_ancestors (p : Path) : p.up p.ancestors.length = none := by
  rw [← getElem?_ancestors]
  exact List.getElem?_eq_none (Nat.le_refl _)

end PublishGate.Path
