import PublishGate.Proofs.Pattern.Backtracking

/-! # The first match on a line

The search begins at the end of a line, yet what it finds is the match that begins first, and of
those that begin there the one that backtracking comes to first. -/

namespace PublishGate.Pattern

namespace Program

/-- What the matches that go on from step `i` capture, the preferred one first, as backtracking
lists them. -/
def attempts (p : Program) (before : Option Char) : List Char → Nat → List Captured
  | [], i => p.tries ⟨before, none, fun _ _ => []⟩ (p.steps.size + 1) [] i
  | c :: rest, i =>
    p.tries
      ⟨before, some c, fun set next =>
        if set.contains c then (attempts p (some c) rest next).map (Captured.taking c) else []⟩
      (p.steps.size + 1) [] i

def outlook (p : Program) (P : Point) : Outlook where
  before := P.before
  after := P.after
  taken set next :=
    match P.rest with
    | [] => []
    | c :: rest =>
      if set.contains c then (p.attempts (some c) rest next).map (Captured.taking c) else []

variable {p : Program} {n i j next : Nat} {P : Point} {r : Captured} {set : Charset} {c : Char}
variable {before : Option Char} {rest : List Char} {trail : List Nat}

theorem attempts_eq_tries (P : Point) (i : Nat) :
    p.attempts P.before P.rest i = p.tries (p.outlook P) (p.steps.size + 1) [] i := by
  obtain ⟨before, rest⟩ := P
  cases rest with
  | nil => rfl
  | cons c rest => rfl

theorem attempts_ne_nil_iff :
    p.attempts P.before P.rest i ≠ [] ↔ p.Reaches (p.outlook P) [] i := by
  rw [attempts_eq_tries, tries_ne_nil_iff (room_nil p)]

theorem mem_taken (h : r ∈ (p.outlook P).taken set next) :
    ∃ c rest s, P.rest = c :: rest ∧ set.contains c = true ∧
      s ∈ p.attempts (some c) rest next ∧ r = s.taking c := by
  obtain ⟨before, rest⟩ := P
  cases rest with
  | nil => simp [outlook] at h
  | cons c rest =>
    by_cases hc : set.contains c = true
    · simp only [outlook, hc, if_true, List.mem_map] at h
      obtain ⟨s, hs, rfl⟩ := h
      exact ⟨c, rest, s, rfl, hc, hs, rfl⟩
    · simp [outlook, hc] at h

/-! ## Backtracking lists what matches capture -/

theorem leads_of_mem_tries
    (htaken : ∀ i set next r, p.steps[i]? = some (.take set next) →
      r ∈ (p.outlook P).taken set next → p.Leads i P r)
    (h : r ∈ p.tries (p.outlook P) n trail i) : p.Leads i P r := by
  induction n generalizing trail i r with
  | zero => simp [tries] at h
  | succ n ih =>
    by_cases hi : i ∈ trail
    · simp [tries, hi] at h
    cases hs : p.steps[i]? with
    | none => simp [tries_of_none hs] at h
    | some s =>
      rw [tries_of_some hi hs, List.mem_append, List.mem_map] at h
      rcases h with h | ⟨r, h, rfl⟩
      · cases s with
        | accept =>
          obtain rfl : r = .nothing := by simpa [Step.ending] using h
          exact ⟨0, .accept hs⟩
        | take set next => exact htaken i set next r hs h
        | _ => simp [Step.ending] at h
      · obtain ⟨j, hj, hr⟩ := List.mem_flatMap.mp h
        exact leads_of_onward hs hj (ih hr)

theorem leads_of_mem_attempts (h : r ∈ p.attempts before rest i) :
    p.Leads i ⟨before, rest⟩ r := by
  induction rest generalizing before i r with
  | nil =>
    rw [attempts_eq_tries ⟨before, []⟩] at h
    refine leads_of_mem_tries ?_ h
    intro i set next r _ hr
    obtain ⟨c, rest, s, hrest, -⟩ := mem_taken hr
    simp at hrest
  | cons c rest ih =>
    rw [attempts_eq_tries ⟨before, c :: rest⟩] at h
    refine leads_of_mem_tries ?_ h
    intro i set next r hs hr
    obtain ⟨d, rest', s, hrest, hc, hmem, rfl⟩ := mem_taken hr
    obtain ⟨rfl, rfl⟩ : c = d ∧ rest = rest' := by simpa using hrest
    obtain ⟨n, hw⟩ := ih hmem
    exact ⟨n + 1, .take hs hc hw⟩

/-- Where there is a way, backtracking comes to one, if perhaps to another. -/
theorem attempts_ne_nil_of_way (h : p.Way n i P r) : p.attempts P.before P.rest i ≠ [] := by
  induction h with
  | accept hi =>
    rw [attempts_ne_nil_iff]
    exact .ending (List.not_mem_nil) hi (by simp [Step.ending])
  | silent hi hj _ ih =>
    rw [attempts_ne_nil_iff] at ih ⊢
    exact .onward (List.not_mem_nil) hi hj ih
  | take hi hc _ ih =>
    rw [attempts_ne_nil_iff]
    exact .ending (List.not_mem_nil) hi (by simpa [Step.ending, outlook, hc] using ih)

theorem attempts_eq_nil_iff : p.attempts P.before P.rest i = [] ↔ ∀ r, ¬ p.Leads i P r := by
  constructor
  · rintro h r ⟨n, hw⟩
    exact attempts_ne_nil_of_way hw h
  · intro h
    refine List.eq_nil_iff_forall_not_mem.mpr ?_
    intro r hr
    exact h r (leads_of_mem_attempts hr)

/-! ## The search finds the first attempt -/

theorem outcome_of_shows {spot : Spot} (h : Spot.Shows p spot (p.outlook P)) (i : Nat) :
    p.outcome spot i = (p.attempts P.before P.rest i).head? := by
  rw [outcome_eq_head?_tries h, attempts_eq_tries]

/-- At every place of a line the search knows the first of what taking a character comes to. -/
theorem searchFrom_shows (p : Program) (before : Option Char) (line : List Char) :
    Spot.Shows p (p.searchFrom before line).2 (p.outlook ⟨before, line⟩) := by
  induction line generalizing before with
  | nil =>
    refine ⟨rfl, rfl, ?_⟩
    intro i set next hi
    simp [searchFrom, emptyColumn, outlook, hi]
  | cons c line ih =>
    refine ⟨rfl, rfl, ?_⟩
    intro i set next hi
    by_cases hc : set.contains c = true
    · simp [searchFrom, column, outlook, hi, hc, outcome_of_shows (ih (some c))]
    · simp [searchFrom, column, outlook, hi, hc]

theorem searchFrom_nil : (p.searchFrom before []).1 = (p.attempts before [] 0).head? :=
  outcome_of_shows (searchFrom_shows p before []) 0

theorem searchFrom_cons {line : List Char} :
    (p.searchFrom before (c :: line)).1 =
      (p.attempts before (c :: line) 0).head?.or (p.searchFrom (some c) line).1 := by
  rw [← outcome_of_shows (searchFrom_shows p before (c :: line)) 0]
  simp only [searchFrom]
  split
  next h => rw [h, Option.some_or]
  next h => rw [h, Option.none_or]

theorem forall_split_cons {Q : List Char → List Char → Prop} :
    (∀ a b, c :: rest = a ++ b → Q a b) ↔
      Q [] (c :: rest) ∧ ∀ a b, rest = a ++ b → Q (c :: a) b := by
  constructor
  · intro h
    exact ⟨h [] _ rfl, fun a b hab => h (c :: a) b (by rw [hab, List.cons_append])⟩
  · rintro ⟨hhere, hlater⟩ a b hab
    rcases List.cons_eq_append_iff.mp hab with ⟨rfl, rfl⟩ | ⟨a', rfl, hab'⟩
    · exact hhere
    · exact hlater a' b hab'

theorem exists_split_cons {Q : List Char → List Char → Prop} :
    (∃ a b, c :: rest = a ++ b ∧ Q a b) ↔
      Q [] (c :: rest) ∨ ∃ a b, rest = a ++ b ∧ Q (c :: a) b := by
  constructor
  · rintro ⟨a, b, hab, h⟩
    rcases List.cons_eq_append_iff.mp hab with ⟨rfl, rfl⟩ | ⟨a', rfl, hab'⟩
    · exact .inl h
    · exact .inr ⟨a', b, hab', h⟩
  · rintro (h | ⟨a, b, hab, h⟩)
    · exact ⟨[], _, rfl, h⟩
    · exact ⟨c :: a, b, by rw [hab, List.cons_append], h⟩

/-- The search goes from one place of the line to the next until there is an attempt. -/
theorem searchFrom_eq_some_iff {lead : List Char} :
    (p.searchFrom lead.getLast? rest).1 = some r ↔
      ∃ skipped later, rest = skipped ++ later ∧
        (p.attempts (lead ++ skipped).getLast? later 0).head? = some r ∧
        ∀ a b, rest = a ++ b → a.length < skipped.length →
          p.attempts (lead ++ a).getLast? b 0 = [] := by
  induction rest generalizing lead with
  | nil =>
    rw [searchFrom_nil]
    constructor
    · intro h
      exact ⟨[], [], rfl, by simpa using h, by simp⟩
    · rintro ⟨skipped, later, hsplit, h, -⟩
      obtain ⟨rfl, rfl⟩ := List.append_eq_nil_iff.mp hsplit.symm
      simpa using h
  | cons c rest ih =>
    have hnext : some c = (lead ++ [c]).getLast? := by simp
    rw [searchFrom_cons, Option.or_eq_some_iff, hnext, ih, exists_split_cons]
    simp [forall_split_cons, ← exists_and_left, and_left_comm]

theorem searchFrom_eq_none_iff {lead : List Char} :
    (p.searchFrom lead.getLast? rest).1 = none ↔
      ∀ a b, rest = a ++ b → p.attempts (lead ++ a).getLast? b 0 = [] := by
  induction rest generalizing lead with
  | nil =>
    rw [searchFrom_nil, List.head?_eq_none_iff]
    constructor
    · intro h a b hab
      obtain ⟨rfl, rfl⟩ := List.append_eq_nil_iff.mp hab.symm
      simpa using h
    · intro h
      simpa using h [] [] rfl
  | cons c rest ih =>
    have hnext : some c = (lead ++ [c]).getLast? := by simp
    rw [searchFrom_cons, Option.or_eq_none_iff, hnext, ih, forall_split_cons]
    simp

end Program

namespace Expr

variable {e : Expr} {line lead rest : List Char} {r : Captured}

/-- What the first match on a line captures: the match that backtracking prefers where it begins,
and none begins further to the front. -/
def FirstMatch (e : Expr) (line : List Char) (r : Captured) : Prop :=
  ∃ lead rest, line = lead ++ rest ∧
    ((Program.ofExpr e).attempts lead.getLast? rest 0).head? = some r ∧
    ∀ a b, line = a ++ b → a.length < lead.length → ∀ s, ¬ e.MatchesAt (.behind a b) s

theorem attempts_eq_nil_iff :
    (Program.ofExpr e).attempts lead.getLast? rest 0 = [] ↔
      ∀ s, ¬ e.MatchesAt (.behind lead rest) s := by
  have h := Program.attempts_eq_nil_iff (p := .ofExpr e) (P := .behind lead rest) (i := 0)
  simp only [Program.leads_ofExpr_iff] at h
  exact h

theorem FirstMatch.matchesAt (h : e.FirstMatch line r) :
    ∃ lead rest, line = lead ++ rest ∧ e.MatchesAt (.behind lead rest) r := by
  obtain ⟨lead, rest, hsplit, hfirst, -⟩ := h
  refine ⟨lead, rest, hsplit, ?_⟩
  exact Program.leads_ofExpr_iff.mp (Program.leads_of_mem_attempts (List.mem_of_head? hfirst))

theorem FirstMatch.eq_nothing_or_text (h : e.FirstMatch line r) :
    r = .nothing ∨ ∃ t, r = .text t := by
  obtain ⟨_, _, -, h⟩ := h.matchesAt
  exact h.eq_nothing_or_text

/-- The search finds the first match. -/
theorem search_eq_some_iff : (Program.ofExpr e).search line = some r ↔ e.FirstMatch line r := by
  have h : ((Program.ofExpr e).searchFrom [].getLast? line).1 = some r ↔ _ :=
    Program.searchFrom_eq_some_iff
  simp only [List.getLast?_nil, List.nil_append, attempts_eq_nil_iff] at h
  exact h

/-- The search fails on just the lines that no part of matches. -/
theorem search_eq_none_iff : (Program.ofExpr e).search line = none ↔ ¬ e.MatchesIn line := by
  have h : ((Program.ofExpr e).searchFrom [].getLast? line).1 = none ↔ _ :=
    Program.searchFrom_eq_none_iff
  simp only [List.getLast?_nil, List.nil_append, attempts_eq_nil_iff] at h
  rw [Program.search, h]
  constructor
  · rintro h ⟨lead, rest, s, hsplit, hm⟩
    exact h lead rest hsplit s hm
  · intro h lead rest hsplit s hm
    exact h ⟨lead, rest, s, hsplit, hm⟩

end Expr

end PublishGate.Pattern
