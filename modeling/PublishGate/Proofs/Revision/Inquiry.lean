import Mathlib.Data.List.Infix
import PublishGate.Revision.Git

/-! # Asking for the state of the sources

Three questions have to be answered with success, one after the other, and the first that is not
ends the inquiry with an error of its own. Only after them git is asked for a description, and what
it says to that is no fault. -/

namespace PublishGate

namespace GitQuery

def required : List GitQuery :=
  [.inside, .head, .status]

def inOrder : List GitQuery :=
  required ++ [.describe]

end GitQuery

namespace GitError

theorem title_prefix_message_failed (query : GitQuery) (complaint : String) :
    query.title.toList <+: (failed query complaint).message.toList := by
  have hmessage : ∃ rest, (failed query complaint).message = query.title ++ rest := by
    cases query with
    | head =>
      have hsplit : "git rev-parse failed (does the repository have any commits?): " =
          "git rev-parse" ++ " failed (does the repository have any commits?): " := by decide
      exact ⟨_, (congrArg (· ++ complaint) hsplit).trans String.append_assoc⟩
    | inside => exact ⟨" failed: " ++ complaint, String.append_assoc⟩
    | status => exact ⟨" failed: " ++ complaint, String.append_assoc⟩
    | describe => exact ⟨" failed: " ++ complaint, String.append_assoc⟩
  obtain ⟨rest, hrest⟩ := hmessage
  rw [hrest, String.toList_append]
  exact List.prefix_append _ _

theorem title_infix_message_notRun (query : GitQuery) (cause : FileError) :
    query.title.toList <:+: (notRun query cause).message.toList := by
  have hmessage : (notRun query cause).message =
      "failed to run " ++ query.title ++ (": " ++ cause.message) := String.append_assoc
  rw [hmessage, String.toList_append, String.toList_append]
  exact List.infix_append _ _ _

end GitError

namespace GitAnswer

variable {answer : GitAnswer} {query : GitQuery} {r : GitReply}

def Succeeds (answer : GitAnswer) : Prop :=
  ∃ r, answer = .ok r ∧ r.code = 0

theorem succeeds_ok_iff : Succeeds (.ok r) ↔ r.code = 0 := by
  simp [Succeeds]

theorem isRepository_iff : answer.isRepository = true ↔ answer.Succeeds := by
  cases answer with
  | error e => simp [isRepository, Succeeds]
  | ok r => simp [isRepository, Succeeds, GitReply.succeeded]

def fault (dir : Path) (query : GitQuery) (answer : GitAnswer) : GitError :=
  if query = .inside then .notRepository dir
  else match answer with
    | .ok r => .failed query r.complaint
    | .error e => .notRun query e

/-- The error of the first question tells the directory, any other one the command. -/
theorem message_fault (dir : Path) (query : GitQuery) (answer : GitAnswer) :
    (query = .inside → (fault dir query answer).message = "not a git repository: " ++ dir.text) ∧
      (query ≠ .inside → query.title.toList <:+: (fault dir query answer).message.toList) := by
  unfold fault
  constructor
  · intro hq
    rw [if_pos hq]
    rfl
  · intro hq
    rw [if_neg hq]
    cases answer with
    | error e => exact GitError.title_infix_message_notRun query e
    | ok r => exact (GitError.title_prefix_message_failed query r.complaint).isInfix

theorem reply_of_code_eq_zero (query : GitQuery) (h : r.code = 0) : reply query (.ok r) = .ok r :=
  if_pos (beq_iff_eq.mpr h)

theorem reply_of_not_succeeds (h : ¬ answer.Succeeds) (hq : query ≠ .inside) (dir : Path) :
    reply query answer = .error (fault dir query answer) := by
  unfold fault
  rw [if_neg hq]
  cases answer with
  | error e => rfl
  | ok r =>
    have hcode : ¬ r.succeeded = true := fun hs => h ⟨r, rfl, beq_iff_eq.mp hs⟩
    exact if_neg hcode

theorem commit_of_code_eq_zero (h : r.code = 0) : commit (.ok r) = .ok r.text := by
  rw [commit, reply_of_code_eq_zero _ h]
  rfl

theorem commit_of_not_succeeds (h : ¬ answer.Succeeds) (dir : Path) :
    answer.commit = .error (fault dir .head answer) := by
  rw [commit, reply_of_not_succeeds h (by decide) dir]
  rfl

theorem isClean_of_code_eq_zero (h : r.code = 0) : isClean (.ok r) = .ok r.stdout.isEmpty := by
  rw [isClean, reply_of_code_eq_zero _ h]
  rfl

theorem isClean_of_not_succeeds (h : ¬ answer.Succeeds) (dir : Path) :
    answer.isClean = .error (fault dir .status answer) := by
  rw [isClean, reply_of_not_succeeds h (by decide) dir]
  rfl

end GitAnswer

namespace Revision

variable {σ : Type} {dir : Path} {answer : GitQuery → GitAnswer} {table : GitQuery → GitReply}
  {git : GitQuery → StateM σ GitAnswer} {note : List GitQuery → σ}
  {asked before before' : List GitQuery} {query query' : GitQuery}
  {result : Except GitError Revision} {r : Revision}

def ofAnswers (dir : Path) (answer : GitQuery → GitAnswer) : Except GitError Revision :=
  if (answer .inside).isRepository then do
    let commit ← (answer .head).commit
    let clean ← (answer .status).isClean
    let described ← (answer .describe).described
    return .ofDescribe described commit (!clean)
  else .error (.notRepository dir)

structure FirstFailure (answer : GitQuery → GitAnswer) (before : List GitQuery)
    (query : GitQuery) : Prop where
  order : before ++ [query] <+: GitQuery.required
  succeeded : ∀ earlier ∈ before, (answer earlier).Succeeds
  failed : ¬ (answer query).Succeeds

theorem FirstFailure.eq_of_prefix (h : FirstFailure answer before query)
    (h' : FirstFailure answer before' query') (hp : before ++ [query] <+: before' ++ [query']) :
    before ++ [query] = before' ++ [query'] := by
  rcases List.prefix_concat_iff.mp hp with he | hearlier
  · exact he
  · exact absurd (h'.succeeded query (hearlier.subset (by simp))) h.failed

theorem FirstFailure.unique (h : FirstFailure answer before query)
    (h' : FirstFailure answer before' query') : before = before' ∧ query = query' := by
  have he : before ++ [query] = before' ++ [query'] := by
    rcases List.prefix_or_prefix_of_prefix h.order h'.order with hp | hp
    · exact h.eq_of_prefix h' hp
    · exact (h'.eq_of_prefix h hp).symm
  simpa using he

/-- Which questions are asked, and what comes of the answers. -/
inductive Inquiry (dir : Path) (answer : GitQuery → GitAnswer) :
    List GitQuery → Except GitError Revision → Prop
  | failure {before : List GitQuery} {query : GitQuery}
      (first : FirstFailure answer before query) :
      Inquiry dir answer (before ++ [query]) (.error (GitAnswer.fault dir query (answer query)))
  | success {head status : GitReply}
      (succeeded : ∀ query ∈ GitQuery.required, (answer query).Succeeds)
      (headReply : answer .head = .ok head) (statusReply : answer .status = .ok status) :
      Inquiry dir answer GitQuery.inOrder
        ((answer .describe).described.map (ofDescribe · head.text (!status.stdout.isEmpty)))

theorem FirstFailure.not_forall (h : FirstFailure answer before query) :
    ¬ ∀ query ∈ GitQuery.required, (answer query).Succeeds :=
  fun hall => h.failed (hall query (h.order.subset (by simp)))

/-- The questions are asked in their order up to the first failure, whose error is the result. The
last one is asked when nothing has failed, and then there is a result unless it cannot be asked. -/
structure AskedInOrder (dir : Path) (answer : GitQuery → GitAnswer) (asked : List GitQuery)
    (result : Except GitError Revision) : Prop where
  order : asked <+: GitQuery.inOrder
  stops : ∀ before query, FirstFailure answer before query →
    asked = before ++ [query] ∧ result = .error (GitAnswer.fault dir query (answer query))
  describe : .describe ∈ asked ↔ ∀ query ∈ GitQuery.required, (answer query).Succeeds
  ok : ∀ described, answer .describe = .ok described →
    ((∃ r, result = .ok r) ↔ ∀ query ∈ GitQuery.required, (answer query).Succeeds)

namespace Inquiry

theorem asked_prefix (h : Inquiry dir answer asked result) : asked <+: GitQuery.inOrder := by
  cases h with
  | failure first => exact first.order.trans (List.prefix_append _ _)
  | success => exact List.prefix_rfl

theorem describe_mem_iff (h : Inquiry dir answer asked result) :
    .describe ∈ asked ↔ ∀ query ∈ GitQuery.required, (answer query).Succeeds := by
  cases h with
  | failure first =>
    refine iff_of_false ?_ first.not_forall
    intro hmem
    exact absurd (first.order.subset hmem) (by decide)
  | success succeeded => exact iff_of_true (by decide) succeeded

/-- The inquiry ends with the first failure there is. -/
theorem of_firstFailure (h : Inquiry dir answer asked result)
    (first : FirstFailure answer before query) :
    asked = before ++ [query] ∧ result = .error (GitAnswer.fault dir query (answer query)) := by
  cases h with
  | failure first' =>
    obtain ⟨rfl, rfl⟩ := first.unique first'
    exact ⟨rfl, rfl⟩
  | success succeeded => exact absurd succeeded first.not_forall

theorem exists_ok_iff {described : GitReply} (h : Inquiry dir answer asked result)
    (hd : answer .describe = .ok described) :
    (∃ r, result = .ok r) ↔ ∀ query ∈ GitQuery.required, (answer query).Succeeds := by
  cases h with
  | failure first =>
    refine iff_of_false ?_ first.not_forall
    rintro ⟨r, hr⟩
    cases hr
  | success succeeded =>
    rw [hd]
    exact iff_of_true ⟨_, rfl⟩ succeeded

theorem askedInOrder (h : Inquiry dir answer asked result) :
    AskedInOrder dir answer asked result where
  order := h.asked_prefix
  stops _ _ first := h.of_firstFailure first
  describe := h.describe_mem_iff
  ok _ hd := h.exists_ok_iff hd

/-- The state of the sources when git could be run. -/
theorem eq_ofDescribe (h : Inquiry dir (fun query => .ok (table query)) asked result)
    (hr : result = .ok r) :
    r = .ofDescribe (if (table .describe).code = 0 then
        Describe.parse? (Text.decodeLossy (table .describe).stdout) else none)
      (table .head).text (!(table .status).stdout.isEmpty) := by
  cases h with
  | failure first => cases hr
  | success succeeded headReply statusReply =>
    cases headReply
    cases statusReply
    rw [← Except.ok.inj hr]
    simp [GitReply.succeeded]

end Inquiry

@[simp] theorem commit_ofDescribe (described : Option Describe) (commit : String) (dirty : Bool) :
    (ofDescribe described commit dirty).commit = commit := by
  cases described <;> rfl

@[simp] theorem dirty_ofDescribe (described : Option Describe) (commit : String) (dirty : Bool) :
    (ofDescribe described commit dirty).dirty = dirty := by
  cases described <;> rfl

structure Tells (table : GitQuery → GitReply) (r : Revision) : Prop where
  commit : r.commit = Text.trim (Text.decodeLossy (table .head).stdout)
  dirty : r.dirty = true ↔ (table .status).stdout ≠ []
  tagged : ∀ d, (table .describe).code = 0 →
    Describe.parse? (Text.decodeLossy (table .describe).stdout) = some d →
      r.tag = some (releaseTag d.tag) ∧ r.distance = d.distance
  untagged : (table .describe).code ≠ 0 ∨
    Describe.parse? (Text.decodeLossy (table .describe).stdout) = none →
      r.tag = none ∧ r.distance = 0

theorem Inquiry.tells (h : Inquiry dir (fun query => .ok (table query)) asked result)
    (hr : result = .ok r) : Tells table r := by
  obtain rfl := h.eq_ofDescribe hr
  constructor
  · exact commit_ofDescribe _ _ _
  · simp
  · intro d hcode hd
    rw [if_pos hcode, hd]
    exact ⟨rfl, rfl⟩
  · intro hnone
    have hdescribed : (if (table .describe).code = 0 then
        Describe.parse? (Text.decodeLossy (table .describe).stdout) else none) = none := by
      rw [ite_eq_right_iff]
      exact hnone.resolve_left ∘ not_not_intro
    rw [hdescribed]
    exact ⟨rfl, rfl⟩

/-! ## The inquiry as it is made -/

/-- Git answers every question in one way, and `note` tells what is left of the questions so far. -/
def Answers (git : GitQuery → StateM σ GitAnswer) (answer : GitQuery → GitAnswer)
    (note : List GitQuery → σ) : Prop :=
  ∀ query before, git query (note before) = (answer query, note (before ++ [query]))

def recorded (answer : GitQuery → GitAnswer) (query : GitQuery) :
    StateM (List GitQuery) GitAnswer :=
  fun asked => (answer query, asked ++ [query])

theorem answers_recorded (answer : GitQuery → GitAnswer) : Answers (recorded answer) answer id :=
  fun _ _ => rfl

theorem Answers.run_bind {α : Type} (h : Answers git answer note) (query : GitQuery)
    (before : List GitQuery) (next : GitAnswer → StateM σ α) :
    (git query >>= next) (note before) = next (answer query) (note (before ++ [query])) := by
  change next (git query (note before)).1 (git query (note before)).2 = _
  rw [h]

theorem inquiry_of_ask (dir : Path) (h : Answers git answer note) :
    ∃ asked, Revision.ask dir git (note []) = (ofAnswers dir answer, note asked) ∧
      Inquiry dir answer asked (ofAnswers dir answer) := by
  unfold Revision.ask ofAnswers
  rw [h.run_bind]
  by_cases hinside : (answer .inside).Succeeds
  · have hrepository := GitAnswer.isRepository_iff.mpr hinside
    rw [if_neg (by simp [hrepository]), if_pos hrepository, h.run_bind]
    by_cases hhead : (answer .head).Succeeds
    · obtain ⟨head, hr, hcode⟩ := id hhead
      rw [hr, GitAnswer.commit_of_code_eq_zero hcode]
      dsimp only
      rw [h.run_bind]
      by_cases hstatus : (answer .status).Succeeds
      · obtain ⟨status, hs, hcode⟩ := id hstatus
        rw [hs, GitAnswer.isClean_of_code_eq_zero hcode]
        dsimp only
        rw [h.run_bind]
        have hsuccess : ∀ query ∈ GitQuery.required, (answer query).Succeeds := by
          simp [GitQuery.required, hinside, hhead, hstatus]
        have hinquiry : Inquiry dir answer _ _ := .success hsuccess hr hs
        cases hd : (answer .describe).described with
        | error e =>
          rw [hd] at hinquiry
          exact ⟨_, rfl, hinquiry⟩
        | ok described =>
          rw [hd] at hinquiry
          exact ⟨_, rfl, hinquiry⟩
      · rw [GitAnswer.isClean_of_not_succeeds hstatus dir]
        exact ⟨_, rfl, .failure ⟨by decide, by simp [hinside, hhead], hstatus⟩⟩
    · rw [GitAnswer.commit_of_not_succeeds hhead dir]
      exact ⟨_, rfl, .failure ⟨by decide, by simp [hinside], hhead⟩⟩
  · have hrepository : (answer .inside).isRepository = false := by
      simpa using mt GitAnswer.isRepository_iff.mp hinside
    rw [hrepository]
    exact ⟨_, rfl, .failure ⟨by decide, by simp, hinside⟩⟩

theorem exists_inquiry (dir : Path) (answer : GitQuery → GitAnswer) :
    ∃ asked, Inquiry dir answer asked (ofAnswers dir answer) := by
  obtain ⟨asked, -, h⟩ := inquiry_of_ask dir (answers_recorded answer)
  exact ⟨asked, h⟩

end Revision

end PublishGate
