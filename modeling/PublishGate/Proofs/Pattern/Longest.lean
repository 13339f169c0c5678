import PublishGate.Proofs.Pattern.Preference

/-! # Loops over characters

A greedy loop over a set of characters takes the longest part of the line behind which the rest of
the pattern still matches. -/

namespace PublishGate.Pattern

namespace Captured

variable {t : List Char}

@[simp] theorem foldr_taking_nothing (cs : List Char) : cs.foldr taking .nothing = .nothing := by
  induction cs with
  | nil => rfl
  | cons c cs ih => exact congrArg (taking c) ih

@[simp] theorem foldr_taking_text (cs : List Char) : cs.foldr taking (.text t) = .text t := by
  induction cs with
  | nil => rfl
  | cons c cs ih => exact congrArg (taking c) ih

@[simp] theorem foldr_taking_partly (cs : List Char) :
    cs.foldr taking (.partly t) = .partly (cs ++ t) := by
  induction cs with
  | nil => rfl
  | cons c cs ih => exact congrArg (taking c) ih

end Captured

/-- `pre` is the longest part in front of `line` that has only characters that `takes` allows and
behind which `Goes` holds. -/
structure Longest (takes : Char → Bool) (Goes : List Char → Prop) (line pre post : List Char) :
    Prop where
  split : line = pre ++ post
  taken : ∀ c ∈ pre, takes c = true
  goes : Goes post
  longest : ∀ pre' post', line = pre' ++ post' → (∀ c ∈ pre', takes c = true) → Goes post' →
    pre'.length ≤ pre.length

namespace Longest

variable {takes : Char → Bool} {Goes : List Char → Prop} {c : Char}
variable {line pre pre' post post' : List Char}

theorem unique (h : Longest takes Goes line pre post) (h' : Longest takes Goes line pre' post') :
    pre = pre' ∧ post = post' := by
  have hle := h.longest pre' post' h'.split h'.taken h'.goes
  have hge := h'.longest pre post h.split h.taken h.goes
  exact List.append_inj (h.split.symm.trans h'.split) (by omega)

theorem cons (hc : takes c = true) (h : Longest takes Goes line pre post) :
    Longest takes Goes (c :: line) (c :: pre) post := by
  refine ⟨by rw [h.split, List.cons_append], List.forall_mem_cons.mpr ⟨hc, h.taken⟩, h.goes, ?_⟩
  intro pre' post' hs ht hg
  cases pre' with
  | nil => exact Nat.zero_le _
  | cons d pre' =>
    obtain ⟨rfl, rfl⟩ := List.cons.inj hs
    exact Nat.succ_le_succ (h.longest pre' post' rfl (List.forall_mem_cons.mp ht).2 hg)

theorem of_cons (h : Longest takes Goes line (c :: pre) post) :
    takes c = true ∧ Longest takes Goes (pre ++ post) pre post := by
  obtain ⟨hc, ht⟩ := List.forall_mem_cons.mp h.taken
  refine ⟨hc, rfl, ht, h.goes, ?_⟩
  intro pre' post' hs ht' hg
  have hle := h.longest (c :: pre') post' (by rw [h.split, List.cons_append, hs, List.cons_append])
    (List.forall_mem_cons.mpr ⟨hc, ht'⟩) hg
  exact Nat.le_of_succ_le_succ hle

end Longest

namespace Expr

/-- From every place on, `go` comes to what `Comes` tells about the rest of the line. -/
def Finds (go : Point → Option Captured) (Comes : List Char → Captured → Prop) : Prop :=
  ∀ P r, go P = some r ↔ Comes P.rest r

/-- A loop can take some part in front of the line, and `Comes` tells something of what is behind
it. -/
def Passes (set : Charset) (Comes : List Char → Captured → Prop) (line : List Char) : Prop :=
  ∃ pre post s, line = pre ++ post ∧ (∀ c ∈ pre, set.contains c = true) ∧ Comes post s

/-- Behind the longest part of the line that a loop can take, of `least` characters at least,
`Comes` tells what is captured. -/
def Loops (least : Nat) (set : Charset) (Comes : List Char → Captured → Prop) (line : List Char)
    (r : Captured) : Prop :=
  ∃ pre post s, least ≤ pre.length ∧
    Longest set.contains (fun t => ∃ s, Comes t s) line pre post ∧ Comes post s ∧
    r = pre.foldr Captured.taking s

variable {go : Point → Option Captured} {Comes : List Char → Captured → Prop} {set : Charset}
variable {line pre post : List Char} {r s : Captured} {P : Point} {n : Nat}

theorem Finds.eq_none (h : Finds go Comes) : go P = none ↔ ¬ ∃ r, Comes P.rest r := by
  simp only [Option.eq_none_iff_forall_not_mem, Option.mem_def, h P, not_exists]

theorem Finds.unique (h : Finds go Comes) (hr : Comes line r) (hs : Comes line s) : r = s :=
  Option.some.inj (((h ⟨none, line⟩ r).mpr hr).symm.trans ((h ⟨none, line⟩ s).mpr hs))

theorem finds_nothing : Finds (fun _ => some .nothing) fun _ r => r = .nothing := by
  intro P r
  rw [Option.some.injEq, eq_comm]

theorem finds_map (f : Captured → Captured) (h : Finds go Comes) :
    Finds (fun P => (go P).map f) fun line r => ∃ s, Comes line s ∧ r = f s := by
  intro P r
  simp only [Option.map_eq_some_iff, h P, eq_comm]

theorem finds_chars (h : Finds go Comes) :
    Finds ((chars set).first go) fun line r =>
      ∃ c rest s, line = c :: rest ∧ set.contains c = true ∧ Comes rest s ∧ r = s.taking c := by
  rintro ⟨before, line⟩ r
  cases line with
  | nil => simp [first]
  | cons c rest =>
    simp only [first, Option.ite_none_right_eq_some, Option.map_eq_some_iff, h _ _]
    constructor
    · rintro ⟨hc, s, hs, rfl⟩
      exact ⟨c, rest, s, rfl, hc, hs, rfl⟩
    · rintro ⟨c', rest', s, hline, hc, hs, rfl⟩
      obtain ⟨rfl, rfl⟩ := List.cons.inj hline
      exact ⟨hc, s, hs, rfl⟩

theorem passes_cons_iff {c : Char} :
    Passes set Comes (c :: line) ↔
      (∃ r, Comes (c :: line) r) ∨ set.contains c = true ∧ Passes set Comes line := by
  constructor
  · rintro ⟨pre, post, s, hs, ht, hg⟩
    cases pre with
    | nil => exact .inl ⟨s, hs ▸ hg⟩
    | cons d pre =>
      obtain ⟨rfl, rfl⟩ := List.cons.inj hs
      obtain ⟨hc, ht⟩ := List.forall_mem_cons.mp ht
      exact .inr ⟨hc, pre, post, s, rfl, ht, hg⟩
  · rintro (⟨s, hg⟩ | ⟨hc, pre, post, s, rfl, ht, hg⟩)
    · exact ⟨[], _, s, rfl, by simp, hg⟩
    · exact ⟨c :: pre, post, s, rfl, List.forall_mem_cons.mpr ⟨hc, ht⟩, hg⟩

theorem loops_cons {c : Char} (hc : set.contains c = true) (h : Loops 0 set Comes line s) :
    Loops 0 set Comes (c :: line) (s.taking c) := by
  obtain ⟨pre, post, t, -, hlong, ht, rfl⟩ := h
  exact ⟨c :: pre, post, t, Nat.zero_le _, hlong.cons hc, ht, rfl⟩

/-- A loop that cannot go on takes no part of the line. -/
theorem loops_here (hr : Comes line r)
    (hno : ∀ c rest, line = c :: rest → ¬ (set.contains c = true ∧ Passes set Comes rest)) :
    Loops 0 set Comes line r := by
  refine ⟨[], line, r, Nat.zero_le _, ⟨rfl, by simp, ⟨r, hr⟩, ?_⟩, hr, rfl⟩
  rintro pre post hs ht ⟨s, hg⟩
  cases pre with
  | nil => exact Nat.le_refl _
  | cons c pre =>
    obtain ⟨hc, ht⟩ := List.forall_mem_cons.mp ht
    exact absurd ⟨hc, pre, post, s, rfl, ht, hg⟩ (hno c (pre ++ post) hs)

/-- What the rounds of a loop come to is behind the longest part that it can take; and if they come
to nothing, there is no such part. -/
theorem looped_chars (set : Charset) (h : Finds go Comes) (hn : P.rest.length < n) :
    (∀ r, looped true (chars set).first go n P = some r → Loops 0 set Comes P.rest r) ∧
      (looped true (chars set).first go n P = none → ¬ Passes set Comes P.rest) := by
  obtain ⟨before, line⟩ := P
  obtain ⟨n, rfl⟩ := Nat.exists_eq_succ_of_ne_zero (Nat.ne_zero_of_lt hn)
  -- a round goes on one character further, so the induction is on the rest of the line
  induction line generalizing before n with
  | nil =>
    have hgo : looped true (chars set).first go (n + 1) ⟨before, []⟩ = go ⟨before, []⟩ := rfl
    rw [hgo]
    constructor
    · intro r hr
      exact loops_here ((h _ r).mp hr) (by simp)
    · rintro hnone ⟨pre, post, s, hs, -, hg⟩
      obtain ⟨rfl, rfl⟩ := List.append_eq_nil_iff.mp hs.symm
      exact h.eq_none.mp hnone ⟨s, hg⟩
  | cons c rest ih =>
    have hlt := Nat.lt_of_succ_lt_succ hn
    obtain ⟨n, rfl⟩ := Nat.exists_eq_succ_of_ne_zero (Nat.ne_zero_of_lt hlt)
    obtain ⟨hsome, hnone⟩ := ih (some c) n hlt
    have hgo : looped true (chars set).first go (n + 2) ⟨before, c :: rest⟩ =
        (if set.contains c then (looped true (chars set).first go (n + 1) ⟨some c, rest⟩).map
          (Captured.taking c) else none).or (go ⟨before, c :: rest⟩) := rfl
    rw [hgo]
    cases hround : if set.contains c then
        (looped true (chars set).first go (n + 1) ⟨some c, rest⟩).map (Captured.taking c)
        else none with
    | some t =>
      obtain ⟨hc, s, hs, rfl⟩ : set.contains c = true ∧ _ := by
        simpa only [Option.ite_none_right_eq_some, Option.map_eq_some_iff] using hround
      constructor
      · rintro r ⟨⟩
        exact loops_cons hc (hsome s hs)
      · rintro ⟨⟩
    | none =>
      have hno : ¬ (set.contains c = true ∧ Passes set Comes rest) := by
        rintro ⟨hc, hp⟩
        rw [if_pos hc, Option.map_eq_none_iff] at hround
        exact hnone hround hp
      rw [Option.none_or]
      constructor
      · intro r hr
        refine loops_here ((h _ r).mp hr) ?_
        rintro d rest' ⟨⟩
        exact hno
      · intro hgone hp
        exact (passes_cons_iff.mp hp).elim (h.eq_none.mp hgone) hno

theorem finds_star (h : Finds go Comes) :
    Finds ((star true (chars set)).first go) (Loops 0 set Comes) := by
  intro P r
  obtain ⟨hsome, hnone⟩ := looped_chars set h (Nat.lt_succ_self P.rest.length)
  constructor
  · exact hsome r
  · rintro ⟨pre, post, s, -, hlong, hs, rfl⟩
    cases hf : (star true (chars set)).first go P with
    | none => exact absurd ⟨pre, post, s, hlong.split, hlong.taken, hs⟩ (hnone hf)
    | some r =>
      obtain ⟨pre', post', s', -, hlong', hs', rfl⟩ := hsome r hf
      obtain ⟨rfl, rfl⟩ := hlong.unique hlong'
      rw [h.unique hs hs']

/-- A loop with a first round takes a character and then loops. -/
theorem first_plus : (plus true (chars set)).first go =
    (chars set).first ((star true (chars set)).first go) := by
  funext P
  obtain ⟨before, line⟩ := P
  cases line with
  | nil => rfl
  | cons c rest => rfl

theorem finds_plus (h : Finds go Comes) :
    Finds ((plus true (chars set)).first go) (Loops 1 set Comes) := by
  intro P r
  rw [first_plus, finds_chars (finds_star h) P r]
  constructor
  · rintro ⟨c, rest, _, hline, hc, ⟨pre, post, s, -, hlong, hs, rfl⟩, rfl⟩
    exact ⟨c :: pre, post, s, Nat.succ_le_succ (Nat.zero_le _), hline ▸ hlong.cons hc, hs, rfl⟩
  · rintro ⟨pre, post, s, hn, hlong, hs, rfl⟩
    obtain ⟨c, pre, rfl⟩ := List.exists_cons_of_length_pos hn
    obtain ⟨hc, hlong'⟩ := hlong.of_cons
    exact ⟨c, pre ++ post, _, hlong.split, hc, ⟨pre, post, s, Nat.zero_le _, hlong', hs, rfl⟩, rfl⟩

/-- A loop that can take some part takes a longest one. -/
theorem exists_loops (h : Finds go Comes) {least : Nat} (hn : least ≤ pre.length)
    (ht : ∀ c ∈ pre, set.contains c = true) (hs : Comes post s) :
    ∃ r, Loops least set Comes (pre ++ post) r := by
  have hp : Passes set Comes (pre ++ post) := ⟨pre, post, s, rfl, ht, hs⟩
  cases hf : (star true (chars set)).first go ⟨none, pre ++ post⟩ with
  | none => exact absurd hp ((looped_chars set h (Nat.lt_succ_self _)).2 hf)
  | some r =>
    obtain ⟨pre', post', s', -, hlong, hs', rfl⟩ := (finds_star h _ r).mp hf
    have hle := hlong.longest pre post rfl ht ⟨s, hs⟩
    exact ⟨_, pre', post', s', Nat.le_trans hn hle, hlong, hs', rfl⟩

def word (w : List Char) : List Expr :=
  w.map fun c => .chars (.single c)

theorem contains_single {c d : Char} : (Charset.single c).contains d = true ↔ d = c := by
  simp only [Charset.single, Charset.contains, Charset.has, CodeRange.has, List.any_cons,
    List.any_nil, Bool.or_false, Bool.and_eq_true, decide_eq_true_eq, ← Char.toNat_inj]
  omega

theorem finds_word (w : List Char) (h : Finds go Comes) :
    Finds ((word w).foldr first go) fun line r =>
      ∃ rest s, line = w ++ rest ∧ Comes rest s ∧ r = w.foldr Captured.taking s := by
  induction w with
  | nil =>
    intro P r
    simp [word, h P r]
  | cons c w ih =>
    intro P r
    have hword : word (c :: w) = .chars (.single c) :: word w := rfl
    rw [hword, List.foldr_cons, finds_chars ih P r]
    simp only [contains_single]
    constructor
    · rintro ⟨_, _, _, hline, rfl, ⟨rest, s, rfl, hs, rfl⟩, rfl⟩
      exact ⟨rest, s, hline, hs, rfl⟩
    · rintro ⟨rest, s, hline, hs, rfl⟩
      exact ⟨c, w ++ rest, _, hline, rfl, ⟨rest, s, rfl, hs, rfl⟩, rfl⟩

/-- The parts of a sequence come one behind the other. -/
theorem first_sequence (es : List Expr) : (sequence es).first go = es.foldr first go := by
  induction es with
  | nil => rfl
  | cons e es ih =>
    cases es with
    | nil => rfl
    | cons f es =>
      rw [List.foldr_cons, ← ih]
      rfl

end Expr

end PublishGate.Pattern
