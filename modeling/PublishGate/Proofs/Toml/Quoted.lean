import Mathlib.Tactic.SplitIfs
import PublishGate.Toml.Quoted.Reader
import PublishGate.Toml.Quoted.Writer

/-! # Strings of TOML read back from their written form

The reader takes a character after the other and the writer chooses a style for the whole text. What
connects them is how many quotes can stand next to each other: never three within a text, and those
at its end are told from the closing ones by their number. -/

namespace PublishGate.Toml.Quoted

variable {multi : Bool} {c q : Char} {s t rest : List Char} {run k : Nat}

/-! ## Single characters -/

theorem hexValue?_upperHex : ∀ n < 16, Text.hexValue? (Text.upperHex n) = some n := by
  decide

theorem basic_plain (hq : c ≠ '"') (hb : c ≠ '\\') (hp : isPlain c = true) (multi : Bool)
    (s : List Char) : basic multi .text (c :: s) = put c (basic multi .text s) := by
  simp [basic, hq, hb, hp]

theorem basic_lineFeed (s : List Char) :
    basic true .text ('\n' :: s) = put '\n' (basic true .text s) := by
  simp [basic, atLineBreak, show ('\n' : Char) ≠ '"' by decide, show ('\n' : Char) ≠ '\\' by decide]

theorem basic_letter {letter : Char} (hw : hexWidth? letter = none)
    (he : escape? letter = some c) (multi : Bool) (s : List Char) :
    basic multi .text ('\\' :: letter :: s) = put c (basic multi .text s) := by
  simp [basic, hw, he, show ('\\' : Char) ≠ '"' by decide]

theorem basic_code {high low : Char} {h l : Nat} (hh : Text.hexValue? high = some h)
    (hl : Text.hexValue? low = some l) (hc : Text.scalar? (16 * h + l) = some c) (multi : Bool)
    (s : List Char) :
    basic multi .text ('\\' :: 'u' :: '0' :: '0' :: high :: low :: s) =
      put c (basic multi .text s) := by
  have hu : hexWidth? 'u' = some 4 := rfl
  have h0 : Text.hexValue? '0' = some 0 := rfl
  simp [basic, hu, h0, hh, hl, hc, show ('\\' : Char) ≠ '"' by decide]

theorem eq_of_toNat_eq {d : Char} (h : c.toNat = d.toNat) : c = d := Char.toNat_inj.mp h

/-- An escape stands for its character. -/
theorem basic_escape (hc : c.toNat < 0x80) (multi : Bool) (s : List Char) :
    basic multi .text (escape c ++ s) = put c (basic multi .text s) := by
  unfold escape
  split
  next h =>
    obtain rfl : c = '\x08' := eq_of_toNat_eq h
    exact basic_letter rfl rfl multi s
  split
  next h =>
    subst h
    exact basic_letter rfl rfl multi s
  split
  next h =>
    subst h
    exact basic_letter rfl rfl multi s
  split
  next h =>
    obtain rfl : c = '\x0C' := eq_of_toNat_eq h
    exact basic_letter rfl rfl multi s
  split
  next h =>
    subst h
    exact basic_letter rfl rfl multi s
  split
  next h =>
    subst h
    exact basic_letter rfl rfl multi s
  split
  next h =>
    subst h
    exact basic_letter rfl rfl multi s
  next =>
    have hs : Text.scalar? (16 * (c.toNat / 16) + c.toNat % 16) = some c := by
      have he : 16 * (c.toNat / 16) + c.toNat % 16 = c.toNat := by omega
      rw [he, Text.scalar?, if_pos (by omega), Char.ofNat_toNat]
    exact basic_code (hexValue?_upperHex _ (by omega)) (hexValue?_upperHex _ (by omega)) hs multi s

theorem isPlain_of_not_control (hc : isControl c = false) (hn : c ≠ '\n') : isPlain c = true := by
  simp only [isControl, Bool.or_eq_false_iff, Bool.and_eq_false_iff, decide_eq_false_iff_not,
    bne_eq_false_iff_eq, beq_eq_false_iff_ne] at hc
  obtain ⟨hlow, hdel⟩ := hc
  have hlow : 0x20 ≤ c.toNat := Nat.not_lt.mp (hlow.resolve_right hn)
  simp [isPlain, hlow, hdel]

theorem toNat_lt_of_escaped (h : (isControl c || c == '\\' || (c == '\n' && !multi)) = true) :
    c.toNat < 0x80 := by
  simp only [isControl, Bool.or_eq_true, Bool.and_eq_true, decide_eq_true_eq, beq_iff_eq] at h
  rcases h with ((⟨h, -⟩ | h) | rfl) | ⟨rfl, -⟩
  · omega
  · omega
  · decide
  · decide

theorem plain_of_not_escaped (h : ¬ (isControl c || c == '\\' || (c == '\n' && !multi)) = true) :
    isControl c = false ∧ c ≠ '\\' ∧ (c = '\n' → multi = true) := by
  simp only [Bool.not_eq_true, Bool.or_eq_false_iff, beq_eq_false_iff_ne, Bool.and_eq_false_iff,
    Bool.not_eq_false'] at h
  exact ⟨h.1.1, h.1.2, fun hn => h.2.resolve_left (fun hne => hne hn)⟩

/-! ## Basic strings of one line -/

theorem basic_inside (run : Nat) (s rest : List Char) :
    basic false .text (inside false run s ++ '"' :: rest) = some (s, rest) := by
  induction s generalizing run with
  | nil => simp [inside, basic]
  | cons c s ih =>
    unfold inside
    split
    next hq =>
      subst hq
      rw [if_neg (by simp), List.append_assoc, basic_escape (by decide), ih]
      rfl
    next hq =>
      split
      next he =>
        rw [List.append_assoc, basic_escape (toNat_lt_of_escaped he), ih]
        rfl
      next he =>
        obtain ⟨hc, hb, hn⟩ := plain_of_not_escaped he
        have hn : c ≠ '\n' := fun h => Bool.false_ne_true (hn h)
        rw [List.cons_append, basic_plain hq hb (isPlain_of_not_control hc hn), ih]
        rfl

theorem literal_append (hq : '\'' ∉ s) (hp : ∀ c ∈ s, isPlain c = true) (rest : List Char) :
    literal false (s ++ '\'' :: rest) = some (s, rest) := by
  induction s with
  | nil => simp [literal]
  | cons c s ih =>
    have hc : c ≠ '\'' := fun h => hq (by simp [h])
    have ih := ih (fun h => hq (by simp [h])) (fun d hd => hp d (by simp [hd]))
    simp [literal, hc, hp c (by simp), ih, put]

/-! ## Quotes next to each other -/

/-- At most `n` quotes stand at the front of the text, which may be all of it. -/
inductive Leading (q : Char) (n : Nat) (s : List Char) : Prop where
  | all (k : Nat) (hk : k ≤ n) (hs : s = List.replicate k q)
  | some (k : Nat) (hk : k ≤ n) (c : Char) (t : List Char) (hc : c ≠ q)
      (hs : s = List.replicate k q ++ c :: t)

theorem Leading.cons_self {n : Nat} (h : Leading q n s) : Leading q (n + 1) (q :: s) := by
  cases h with
  | all k hk hs => exact .all (k + 1) (by omega) (by rw [hs]; rfl)
  | some k hk c t hc hs => exact .some (k + 1) (by omega) c t hc (by rw [hs]; rfl)

theorem Leading.cons_ne (hc : c ≠ q) (n : Nat) (s : List Char) : Leading q n (c :: s) :=
  .some 0 (by omega) c s hc rfl

theorem quoteRun_replicate (hk : k ≤ 5) (ht : t.head? ≠ some q) :
    quoteRun q (List.replicate k q ++ t) = k := by
  have htake : (List.replicate k q ++ t).take 5 = List.replicate k q ++ t.take (5 - k) := by
    rw [List.take_append, List.length_replicate, List.take_replicate, Nat.min_eq_right hk]
  have hstop : (t.take (5 - k)).takeWhile (· == q) = [] := by
    cases t with
    | nil => simp
    | cons c t =>
      have hc : c ≠ q := fun h => ht (by simp [h])
      cases 5 - k with
      | zero => simp
      | succ m => simp [hc]
  rw [quoteRun, htake, List.takeWhile_append_of_pos (by simp), hstop]
  simp

/-- Quotes within a text are fewer than three. -/
theorem quoteRun_within (hk : k ≤ 2) (hc : c ≠ q) (t : List Char) :
    quoteRun q (List.replicate k q ++ c :: t) < 3 := by
  rw [quoteRun_replicate (by omega) (by simpa using hc)]
  omega

/-- Quotes at the end of a text stand together with the three that close it. -/
theorem quoteRun_closing (hk : k ≤ 2) (hr : rest.head? ≠ some q) :
    quoteRun q (List.replicate k q ++ ([q, q, q] ++ rest)) = k + 3 := by
  have h : List.replicate k q ++ ([q, q, q] ++ rest) = List.replicate (k + 3) q ++ rest := by
    rw [← List.replicate_append_replicate, List.append_assoc]
    rfl
  rw [h, quoteRun_replicate (by omega) hr]

theorem drop_closing (q : Char) (k : Nat) (rest : List Char) :
    (List.replicate k q ++ ([q, q, q] ++ rest)).drop (k + 3) = rest := by
  rw [← List.append_assoc]
  exact List.drop_left' (by simp)

theorem replicate_cons_closing (q : Char) (k : Nat) (rest : List Char) :
    q :: (List.replicate k q ++ ([q, q, q] ++ rest)) =
      List.replicate (k + 1) q ++ ([q, q, q] ++ rest) := rfl

/-! ## Basic strings of several lines -/

theorem head?_escape (c : Char) : ∃ t, escape c = '\\' :: t := by
  unfold escape
  split_ifs <;> exact ⟨_, rfl⟩

/-- What is written inside has no more quotes at its front than may still follow those before it,
and quotes alone stand for themselves. -/
theorem leading_inside (hrun : run ≤ 2) (s : List Char) :
    (∃ k, run + k ≤ 2 ∧ s = List.replicate k '"' ∧ inside true run s = List.replicate k '"') ∨
      ∃ k c t, run + k ≤ 2 ∧ c ≠ '"' ∧ inside true run s = List.replicate k '"' ++ c :: t := by
  induction s generalizing run with
  | nil => exact .inl ⟨0, hrun, rfl, rfl⟩
  | cons c s ih =>
    unfold inside
    obtain ⟨t, ht⟩ := head?_escape c
    split
    next hq =>
      subst hq
      split
      next hr =>
        have hr : run + 1 ≤ 2 := by simpa [Nat.lt_succ_iff] using hr
        rcases ih hr with ⟨k, hk, hs, hi⟩ | ⟨k, c, t, hk, hc, hi⟩
        · exact .inl ⟨k + 1, by omega, by rw [hs]; rfl, by rw [hi]; rfl⟩
        · exact .inr ⟨k + 1, c, t, by omega, hc, by rw [hi]; rfl⟩
      next => exact .inr ⟨0, '\\', _, hrun, by decide, by rw [ht]; rfl⟩
    next hq =>
      split
      next => exact .inr ⟨0, '\\', _, hrun, by decide, by rw [ht]; rfl⟩
      next => exact .inr ⟨0, c, _, hrun, hq, rfl⟩

theorem basic_quote_within {t : List Char} (h : quoteRun '"' ('"' :: t) < 3) :
    basic true .text ('"' :: t) = put '"' (basic true .text t) := by
  simp [basic, h]

theorem basic_quotes_closing (hk : k ≤ 2) (hr : rest.head? ≠ some '"') :
    basic true .text (List.replicate k '"' ++ (['"', '"', '"'] ++ rest)) =
      some (List.replicate k '"', rest) := by
  have hc : ∃ t, List.replicate k '"' ++ (['"', '"', '"'] ++ rest) = '"' :: t := by
    cases k with
    | zero => exact ⟨_, rfl⟩
    | succ k => exact ⟨_, rfl⟩
  obtain ⟨t, ht⟩ := hc
  have hrun := quoteRun_closing hk hr
  have hdrop := drop_closing '"' k rest
  rw [ht] at hrun hdrop ⊢
  simp [basic, hrun, hdrop, show ¬ k + 3 < 3 by omega]

theorem basic_inside_lines (hrun : run ≤ 2) (s : List Char) (hr : rest.head? ≠ some '"') :
    basic true .text (inside true run s ++ (['"', '"', '"'] ++ rest)) = some (s, rest) := by
  induction s generalizing run with
  | nil => exact basic_quotes_closing (k := 0) (by omega) hr
  | cons c s ih =>
    unfold inside
    split
    next hq =>
      subst hq
      split
      next hlt =>
        have hlt : run + 1 ≤ 2 := by simpa [Nat.lt_succ_iff] using hlt
        rw [List.cons_append]
        -- Either all that is left are quotes, which meet the closing ones, or something stops them.
        rcases leading_inside hlt s with ⟨k, hk, hs, hi⟩ | ⟨k, c, t, hk, hc, hi⟩
        · rw [hi, replicate_cons_closing, basic_quotes_closing (by omega) hr, hs]
          rfl
        · have hw : quoteRun '"'
              ('"' :: (inside true (run + 1) s ++ (['"', '"', '"'] ++ rest))) < 3 := by
            rw [hi, List.append_assoc]
            exact quoteRun_within (k := k + 1) (by omega) hc _
          rw [basic_quote_within hw, ih (by omega)]
          rfl
      next =>
        rw [List.append_assoc, basic_escape (by decide), ih (by omega)]
        rfl
    next hq =>
      split
      next he =>
        rw [List.append_assoc, basic_escape (toNat_lt_of_escaped he), ih (by omega)]
        rfl
      next he =>
        obtain ⟨hc, hb, -⟩ := plain_of_not_escaped he
        rw [List.cons_append]
        by_cases hn : c = '\n'
        · subst hn
          rw [basic_lineFeed, ih (by omega)]
          rfl
        · rw [basic_plain hq hb (isPlain_of_not_control hc hn), ih (by omega)]
          rfl

/-! ## Literal strings of several lines -/

theorem longestRun_mono (q : Char) {m n : Nat} (h : m ≤ n) (s : List Char) :
    longestRun q m s ≤ longestRun q n s := by
  induction s generalizing m n with
  | nil => exact h
  | cons c s ih =>
    unfold longestRun
    split
    · exact ih (by omega)
    · omega

theorem leading_of_longestRun (h : longestRun q run s < 3) : run ≤ 2 ∧ Leading q (2 - run) s := by
  induction s generalizing run with
  | nil => exact ⟨Nat.le_of_lt_succ h, .all 0 (by omega) rfl⟩
  | cons c s ih =>
    unfold longestRun at h
    split at h
    next hc =>
      subst hc
      obtain ⟨hr, hl⟩ := ih h
      refine ⟨by omega, ?_⟩
      have he : 2 - run = 2 - (run + 1) + 1 := by omega
      rw [he]
      exact hl.cons_self
    next hc => exact ⟨by omega, .cons_ne hc _ s⟩

theorem literal_quote_within {t : List Char} (h : quoteRun '\'' ('\'' :: t) < 3) :
    literal true ('\'' :: t) = put '\'' (literal true t) := by
  simp [literal, h]

theorem literal_other (hq : c ≠ '\'') (hc : isControl c = false) (t : List Char) :
    literal true (c :: t) = put c (literal true t) := by
  by_cases hn : c = '\n'
  · subst hn
    simp [literal, atLineBreak, show ('\n' : Char) ≠ '\'' by decide]
  · simp [literal, hq, isPlain_of_not_control hc hn]

theorem literal_quotes_closing (hk : k ≤ 2) (hr : rest.head? ≠ some '\'') :
    literal true (List.replicate k '\'' ++ (['\'', '\'', '\''] ++ rest)) =
      some (List.replicate k '\'', rest) := by
  have hc : ∃ t, List.replicate k '\'' ++ (['\'', '\'', '\''] ++ rest) = '\'' :: t := by
    cases k with
    | zero => exact ⟨_, rfl⟩
    | succ k => exact ⟨_, rfl⟩
  obtain ⟨t, ht⟩ := hc
  have hrun := quoteRun_closing hk hr
  have hdrop := drop_closing '\'' k rest
  rw [ht] at hrun hdrop ⊢
  simp [literal, hrun, hdrop, show ¬ k + 3 < 3 by omega]

theorem literal_append_lines (h : longestRun '\'' 0 s < 3) (hs : ∀ c ∈ s, isControl c = false)
    (hr : rest.head? ≠ some '\'') :
    literal true (s ++ (['\'', '\'', '\''] ++ rest)) = some (s, rest) := by
  induction s with
  | nil => exact literal_quotes_closing (k := 0) (by omega) hr
  | cons c s ih =>
    have ih := fun h => ih h (fun d hd => hs d (by simp [hd]))
    have hlead := leading_of_longestRun h
    unfold longestRun at h
    split at h
    next hq =>
      subst hq
      have ih := ih (Nat.lt_of_le_of_lt (longestRun_mono '\'' (Nat.zero_le _) s) h)
      cases hlead.2 with
      | all k hk he =>
        rw [he]
        exact literal_quotes_closing hk hr
      | some k hk d t hd he =>
        have hw : quoteRun '\'' ('\'' :: (s ++ (['\'', '\'', '\''] ++ rest))) < 3 := by
          rw [← List.cons_append, he, List.append_assoc]
          exact quoteRun_within hk hd _
        rw [List.cons_append, literal_quote_within hw, ih]
        rfl
    next hq =>
      rw [List.cons_append, literal_other hq (hs c (by simp)), ih (by omega)]
      rfl

/-! ## Strings in the style that suits them -/

theorem conditions_of_literal (h : style s = .literal) :
    (∀ c ∈ s, isControl c = false) ∧ longestRun '\'' 0 s = 0 ∧ '\n' ∉ s := by
  simp only [style] at h
  split_ifs at h with h1 h2
  simpa [and_assoc] using h2

theorem conditions_of_literalLines (h : style s = .literalLines) :
    (∀ c ∈ s, isControl c = false) ∧ longestRun '\'' 0 s < 3 := by
  simp only [style] at h
  split_ifs at h with h1 h2 h3 h4
  simpa using h4

theorem le_longestRun (q : Char) (run : Nat) (s : List Char) : run ≤ longestRun q run s := by
  induction s generalizing run with
  | nil => exact Nat.le_refl run
  | cons c s ih =>
    unfold longestRun
    split
    · exact Nat.le_trans (Nat.le_succ run) (ih (run + 1))
    · exact Nat.le_max_left _ _

theorem not_mem_of_longestRun (h : longestRun q run s = 0) : q ∉ s := by
  induction s generalizing run with
  | nil => simp
  | cons c s ih =>
    unfold longestRun at h
    split at h
    next =>
      have := le_longestRun q (run + 1) s
      omega
    next hc =>
      have h0 : longestRun q 0 s = 0 := by omega
      simp [ih h0, Ne.symm hc]

/-- A single quote is not taken for the first of three. -/
theorem read?_doubleQuote {t : List Char} (h : ∀ u, t ≠ '"' :: '"' :: u) :
    read? ('"' :: t) =
      (basic false .text t).map fun (text, rest) => (String.ofList text, rest) := by
  unfold read?
  split
  next he => exact absurd (List.cons.inj he).2 (h _)
  next he => cases (List.cons.inj he).1
  next => rfl

theorem read?_singleQuote {t : List Char} (h : ∀ u, t ≠ '\'' :: '\'' :: u) :
    read? ('\'' :: t) = (literal false t).map fun (text, rest) => (String.ofList text, rest) := by
  unfold read?
  split
  next he => cases (List.cons.inj he).1
  next he => exact absurd (List.cons.inj he).2 (h _)
  next => rfl

theorem dropLineBreak_eq_self (hn : s.head? ≠ some '\n') (hr : s.head? ≠ some '\r') :
    dropLineBreak s = s := by
  unfold dropLineBreak
  split <;> simp_all

/-- A text of several lines keeps its first line break, since the one in front of it is dropped. -/
theorem dropLineBreak_leadBreak (hn : '\n' ∉ s → t.head? ≠ some '\n' ∧ t.head? ≠ some '\r') :
    dropLineBreak (leadBreak s ++ t) = t := by
  unfold leadBreak
  by_cases hs : '\n' ∈ s
  · simp [hs, dropLineBreak]
  · simp [hs, dropLineBreak_eq_self (hn hs).1 (hn hs).2]

theorem isControl_carriageReturn : isControl '\r' = true := by decide

theorem head?_inside (hn : '\n' ∉ s) (run : Nat) (t : List Char) :
    (inside true run s ++ '"' :: t).head? ≠ some '\n' ∧
      (inside true run s ++ '"' :: t).head? ≠ some '\r' := by
  cases s with
  | nil => simp [inside]
  | cons c s =>
    obtain ⟨u, hu⟩ := head?_escape c
    have hc : c ≠ '\n' := fun h => hn (by simp [h])
    unfold inside
    split_ifs with hq hr he
    · simp [hq]
    · simp [hu]
    · simp [hu]
    · have hctrl := (plain_of_not_escaped he).1
      have hcr : c ≠ '\r' := fun h => by simp [h, isControl_carriageReturn] at hctrl
      simp [hc, hcr]

theorem head?_append_closing (hn : '\n' ∉ s) (hs : ∀ c ∈ s, isControl c = false) (t : List Char) :
    (s ++ '\'' :: t).head? ≠ some '\n' ∧ (s ++ '\'' :: t).head? ≠ some '\r' := by
  cases s with
  | nil => simp
  | cons c s =>
    have hc : c ≠ '\n' := fun h => hn (by simp [h])
    have hctrl := hs c (by simp)
    have hcr : c ≠ '\r' := fun h => by simp [h, isControl_carriageReturn] at hctrl
    simp [hc, hcr]

theorem read?_basic (s : String) (rest : List Char) :
    read? (inStyle s.toList .basic ++ '\n' :: rest) = some (s, '\n' :: rest) := by
  -- The empty string is followed by a line feed, so that its quotes are not three.
  have hne : ∀ u, inside false 0 s.toList ++ '"' :: '\n' :: rest ≠ '"' :: '"' :: u := by
    intro u he
    cases hs : s.toList with
    | nil => simp [hs, inside] at he
    | cons c t =>
      obtain ⟨v, hv⟩ := head?_escape c
      rw [hs, inside] at he
      split_ifs at he with hq <;> simp_all
  simp only [inStyle, List.cons_append, List.append_assoc, List.nil_append]
  rw [read?_doubleQuote hne, basic_inside]
  simp

theorem read?_literal {s : String} (h : style s.toList = .literal) (rest : List Char) :
    read? (inStyle s.toList .literal ++ '\n' :: rest) = some (s, '\n' :: rest) := by
  obtain ⟨hcontrol, hrun, hbreak⟩ := conditions_of_literal h
  have hq := not_mem_of_longestRun hrun
  have hplain : ∀ c ∈ s.toList, isPlain c = true := fun c hc =>
    isPlain_of_not_control (hcontrol c hc) (fun h => hbreak (h ▸ hc))
  have hne : ∀ u, s.toList ++ '\'' :: '\n' :: rest ≠ '\'' :: '\'' :: u := by
    intro u he
    cases hs : s.toList with
    | nil => simp [hs] at he
    | cons c t =>
      rw [hs, List.cons_append] at he
      exact hq (by simp [hs, (List.cons.inj he).1])
  simp only [inStyle, List.cons_append, List.append_assoc, List.nil_append]
  rw [read?_singleQuote hne, literal_append hq hplain]
  simp

theorem read?_basicLines (s : String) (rest : List Char) :
    read? (inStyle s.toList .basicLines ++ '\n' :: rest) = some (s, '\n' :: rest) := by
  have hquote : ('\n' :: rest).head? ≠ some '"' := by simp
  have hread := basic_inside_lines (Nat.zero_le 2) s.toList hquote
  have hdrop := dropLineBreak_leadBreak (s := s.toList)
    (fun hn => head?_inside hn 0 ('"' :: '"' :: '\n' :: rest))
  simp only [inStyle, List.append_assoc]
  change (basic true .text (dropLineBreak (leadBreak s.toList ++ (inside true 0 s.toList ++
    (['"', '"', '"'] ++ '\n' :: rest))))).map _ = _
  rw [show (['"', '"', '"'] ++ '\n' :: rest) = '"' :: '"' :: '"' :: '\n' :: rest from rfl]
    at hread ⊢
  rw [hdrop, hread]
  simp

theorem read?_literalLines {s : String} (h : style s.toList = .literalLines) (rest : List Char) :
    read? (inStyle s.toList .literalLines ++ '\n' :: rest) = some (s, '\n' :: rest) := by
  have hquote : ('\n' :: rest).head? ≠ some '\'' := by simp
  obtain ⟨hcontrol, hrun⟩ := conditions_of_literalLines h
  have hread := literal_append_lines hrun hcontrol hquote
  have hdrop := dropLineBreak_leadBreak (s := s.toList)
    (fun hn => head?_append_closing hn hcontrol ('\'' :: '\'' :: '\n' :: rest))
  simp only [inStyle, List.append_assoc]
  change (literal true (dropLineBreak (leadBreak s.toList ++ (s.toList ++
    (['\'', '\'', '\''] ++ '\n' :: rest))))).map _ = _
  rw [show (['\'', '\'', '\''] ++ '\n' :: rest) = '\'' :: '\'' :: '\'' :: '\n' :: rest from rfl]
    at hread ⊢
  rw [hdrop, hread]
  simp

/-- A string that is written at the end of a line is read back from there. -/
theorem read?_write (s : String) (rest : List Char) :
    read? (write s ++ '\n' :: rest) = some (s, '\n' :: rest) := by
  unfold write
  cases h : style s.toList with
  | basic => exact read?_basic s rest
  | literal => exact read?_literal h rest
  | basicLines => exact read?_basicLines s rest
  | literalLines => exact read?_literalLines h rest

end PublishGate.Toml.Quoted
