import PublishGate.Proofs.Pattern.FirstMatch

/-! # The texts that an expression stands for

Without conditions on what is around it, an expression matches the same texts at every place of a
line. These texts are put together as the expression is. -/

namespace PublishGate.Pattern.Expr

variable {greedy : Bool} {set : Charset} {a b e : Expr} {k : Nat} {L M : List Char → Prop}

theorem matches_seq_iff {P R : Point} {r t : Captured} :
    (seq a b).Matches P R r t ↔ ∃ Q s, a.Matches P Q s t ∧ b.Matches Q R r s := by
  constructor
  · intro h
    cases h with
    | seq ha hb => exact ⟨_, _, ha, hb⟩
  · rintro ⟨Q, s, ha, hb⟩
    exact .seq ha hb

theorem matches_look_iff {l : Look} {P Q : Point} {r s : Captured} :
    (look l).Matches P Q r s ↔ l.holds P.before P.after = true ∧ Q = P ∧ s = r := by
  constructor
  · intro h
    cases h with
    | look hl => exact ⟨hl, rfl, rfl⟩
  · rintro ⟨hl, rfl, rfl⟩
    exact .look hl

/-- The parts of lines that the expression matches are the texts of `L`, wherever they stand and
whatever is captured behind them. -/
structure Denotes (e : Expr) (L : List Char → Prop) : Prop where
  sound : ∀ {P Q r s}, e.Matches P Q r s → ∃ cs, L cs ∧ P.rest = cs ++ Q.rest
  complete : ∀ {cs}, L cs → ∀ before rest, ∃ before', ∀ r, ∃ s,
    e.Matches ⟨before, cs ++ rest⟩ ⟨before', rest⟩ r s

theorem denotes_chars (set : Charset) :
    (chars set).Denotes fun cs => ∃ c, cs = [c] ∧ set.contains c = true := by
  constructor
  · intro P Q r s h
    cases h with
    | @chars _ _ c _ _ hc => exact ⟨[c], ⟨c, rfl, hc⟩, rfl⟩
  · rintro _ ⟨c, rfl, hc⟩ before rest
    exact ⟨some c, fun r => ⟨_, .chars hc⟩⟩

theorem Denotes.group (h : e.Denotes L) : (group k e).Denotes L := by
  constructor
  · intro P Q r s hm
    cases hm with
    | group hm => exact h.sound hm
  · intro cs hcs before rest
    obtain ⟨before', hm⟩ := h.complete hcs before rest
    refine ⟨before', fun r => ?_⟩
    obtain ⟨s, hm⟩ := hm r.closing
    exact ⟨s.opening, .group hm⟩

theorem Denotes.seq (ha : a.Denotes L) (hb : b.Denotes M) :
    (seq a b).Denotes fun cs => ∃ x y, cs = x ++ y ∧ L x ∧ M y := by
  constructor
  · intro P R r t hm
    obtain ⟨Q, s, hma, hmb⟩ := matches_seq_iff.mp hm
    obtain ⟨x, hx, hrest⟩ := ha.sound hma
    obtain ⟨y, hy, hrest'⟩ := hb.sound hmb
    exact ⟨x ++ y, ⟨x, y, rfl, hx, hy⟩, by rw [hrest, hrest', List.append_assoc]⟩
  · rintro _ ⟨x, y, rfl, hx, hy⟩ before rest
    obtain ⟨between, hma⟩ := ha.complete hx before (y ++ rest)
    obtain ⟨before', hmb⟩ := hb.complete hy between rest
    refine ⟨before', fun r => ?_⟩
    obtain ⟨s, hmb⟩ := hmb r
    obtain ⟨t, hma⟩ := hma s
    rw [List.append_assoc]
    exact ⟨t, .seq hma hmb⟩

/-- A loop over a set of characters stands for the texts that have no others. -/
theorem denotes_star_chars (greedy : Bool) (set : Charset) :
    (star greedy (chars set)).Denotes fun cs => ∀ c ∈ cs, set.contains c = true := by
  constructor
  · intro P Q r s h
    generalize he : star greedy (chars set) = e at h
    induction h with
    | starNone => exact ⟨[], by simp, rfl⟩
    | starMore hc _ _ ih =>
      obtain ⟨rfl, rfl⟩ := star.inj he
      obtain ⟨_, ⟨c, rfl, hset⟩, hrest⟩ := (denotes_chars set).sound hc
      obtain ⟨cs, hcs, hrest'⟩ := ih rfl
      exact ⟨c :: cs, List.forall_mem_cons.mpr ⟨hset, hcs⟩, by rw [hrest, hrest']; rfl⟩
    | _ => cases he
  · intro cs hcs before rest
    induction cs generalizing before with
    | nil => exact ⟨before, fun r => ⟨r, .starNone⟩⟩
    | cons c cs ih =>
      obtain ⟨hc, hcs⟩ := List.forall_mem_cons.mp hcs
      obtain ⟨before', hm⟩ := ih hcs (some c)
      refine ⟨before', fun r => ?_⟩
      obtain ⟨s, hm⟩ := hm r
      exact ⟨_, .starMore (.chars hc) hm⟩

theorem denotes_plus_chars (greedy : Bool) (set : Charset) :
    (plus greedy (chars set)).Denotes fun cs => cs ≠ [] ∧ ∀ c ∈ cs, set.contains c = true := by
  have hround := (denotes_chars set).seq (denotes_star_chars greedy set)
  constructor
  · intro P Q r s h
    cases h with
    | plus hc hs =>
      obtain ⟨_, ⟨_, cs, rfl, ⟨c, rfl, hset⟩, hcs⟩, hrest⟩ := hround.sound (.seq hc hs)
      exact ⟨c :: cs, ⟨by simp, List.forall_mem_cons.mpr ⟨hset, hcs⟩⟩, hrest⟩
  · rintro cs ⟨hne, hcs⟩ before rest
    obtain ⟨c, cs, rfl⟩ := List.exists_cons_of_ne_nil hne
    obtain ⟨hc, hcs⟩ := List.forall_mem_cons.mp hcs
    obtain ⟨before', hm⟩ := (denotes_star_chars greedy set).complete hcs (some c) rest
    refine ⟨before', fun r => ?_⟩
    obtain ⟨s, hm⟩ := hm r
    exact ⟨_, .plus (.chars hc) hm⟩

theorem Denotes.congr (h : e.Denotes L) (hLM : ∀ cs, L cs ↔ M cs) : e.Denotes M := by
  obtain rfl : L = M := funext fun cs => propext (hLM cs)
  exact h

/-- Between the two ends of a line two parts match the line as a whole. -/
theorem Denotes.matchesIn_iff (ha : a.Denotes L) (hb : b.Denotes M) {line : List Char} :
    (Expr.seq (look .textStart) (Expr.seq a (Expr.seq b (look .textEnd)))).MatchesIn line ↔
      ∃ x y, line = x ++ y ∧ L x ∧ M y := by
  constructor
  · rintro ⟨lead, rest, r, rfl, Q, hm⟩
    obtain ⟨_, _, hstart, hm⟩ := matches_seq_iff.mp hm
    obtain ⟨_, _, hma, hm⟩ := matches_seq_iff.mp hm
    obtain ⟨_, _, hmb, hend⟩ := matches_seq_iff.mp hm
    obtain ⟨hlead, rfl, rfl⟩ := matches_look_iff.mp hstart
    obtain ⟨hafter, rfl, rfl⟩ := matches_look_iff.mp hend
    obtain ⟨cs, hcs, hrest⟩ := (ha.seq hb).sound (.seq hma hmb)
    have hlead : lead = [] := by simpa [Look.holds, Point.behind] using hlead
    have hafter : Q.rest = [] := by simpa [Look.holds, Point.after] using hafter
    obtain rfl : rest = cs := by simpa [Point.behind, hafter] using hrest
    rwa [hlead]
  · intro hline
    obtain ⟨before', hm⟩ := (ha.seq hb).complete hline none []
    obtain ⟨s, hm⟩ := hm .nothing
    rw [List.append_nil] at hm
    obtain ⟨_, _, hma, hmb⟩ := matches_seq_iff.mp hm
    exact ⟨[], line, s, rfl, _, .seq (.look rfl) (.seq hma (.seq hmb (.look rfl)))⟩

/-- The search comes to something on just the lines that some part of matches. -/
theorem isSome_search_iff {line : List Char} :
    ((Program.ofExpr e).search line).isSome = true ↔ e.MatchesIn line := by
  rw [← Option.ne_none_iff_isSome, Ne, search_eq_none_iff, not_not]

end PublishGate.Pattern.Expr
