import Mathlib.Data.List.Nodup
import RandomSearch.Proofs.Parallel

/-!
# Failures of several workers

Once every task has come to an end, either all have returned, and their results are taken in order,
or exactly those that have not are reported, each with its own fault and in the order of the
workers.  Sorting the failures never compares two faults, since no two failures have the same
worker.
-/

namespace RandomSearch

variable {σ ι β : Type}

/-! ## Sorting -/

/-- Insert an item behind all that precede it.  A comparison may fail. -/
def insertBy {α : Type} (precedes : α → α → Except Fault Bool) (item : α) :
    List α → Except Fault (List α)
  | [] => .ok [item]
  | first :: rest => do
      if ← precedes first item then
        return first :: (← insertBy precedes item rest)
      else
        return item :: first :: rest

/-- Sort items by a comparison that may fail. -/
def sortBy {α : Type} (precedes : α → α → Except Fault Bool) : List α → Except Fault (List α)
  | [] => .ok []
  | item :: rest => do insertBy precedes item (← sortBy precedes rest)

namespace Fault

/-- The order of failures as pairs: that of their workers, and for the same worker that of their
faults, in whatever way these are compared. -/
def precedes (compareFaults : Fault → Fault → Except Fault Bool) (left right : Int × Fault) :
    Except Fault Bool :=
  if left.1 = right.1 then compareFaults left.2 right.2 else .ok (decide (left.1 < right.1))

/-- Failures in the order of their workers, with one failure for each. -/
def Ascending (failures : List (Int × Fault)) : Prop :=
  failures.Pairwise fun left right => left.1 < right.1

variable (compareFaults : Fault → Fault → Except Fault Bool)

/-- To compare failures of different workers is to compare the workers. -/
theorem precedes_of_ne {left right : Int × Fault} (different : left.1 ≠ right.1) :
    precedes compareFaults left right = .ok (decide (left.1 < right.1)) :=
  if_neg different

theorem insertBy_eq_ok {failure : Int × Fault} {failures : List (Int × Fault)}
    (ascending : Ascending failures) (new : failure.1 ∉ failures.map Prod.fst) :
    ∃ sorted, insertBy (precedes compareFaults) failure failures = .ok sorted ∧
      sorted.Perm (failure :: failures) ∧ Ascending sorted := by
  induction failures with
  | nil => exact ⟨[failure], rfl, List.Perm.refl _, List.pairwise_singleton _ _⟩
  | cons first rest inductionHypothesis =>
      obtain ⟨firstLess, restAscending⟩ := List.pairwise_cons.mp ascending
      rw [List.map_cons, List.mem_cons, not_or] at new
      obtain ⟨different, newLater⟩ := new
      have compared := precedes_of_ne compareFaults (Ne.symm different)
      by_cases less : first.1 < failure.1
      · obtain ⟨sorted, inserted, same, sortedAscending⟩ :=
          inductionHypothesis restAscending newLater
        refine ⟨first :: sorted, ?_, ?_, ?_⟩
        · simp only [insertBy, compared, less, decide_true, inserted]
          rfl
        · exact (same.cons first).trans (List.Perm.swap failure first rest)
        · refine List.pairwise_cons.mpr ⟨?_, sortedAscending⟩
          intro other member
          rcases List.mem_cons.mp (same.mem_iff.mp member) with rfl | later
          · exact less
          · exact firstLess other later
      · have greater : failure.1 < first.1 := by omega
        refine ⟨failure :: first :: rest, ?_, List.Perm.refl _, ?_⟩
        · simp only [insertBy, compared, less, decide_false]
          rfl
        · refine List.pairwise_cons.mpr ⟨?_, ascending⟩
          intro other member
          rcases List.mem_cons.mp member with rfl | later
          · exact greater
          · exact Int.lt_trans greater (firstLess other later)

/-- Failures of different workers can be sorted as pairs, however faults are compared and even if
they cannot be. -/
theorem sortBy_eq_ok {failures : List (Int × Fault)} (distinct : (failures.map Prod.fst).Nodup) :
    ∃ sorted, sortBy (precedes compareFaults) failures = .ok sorted ∧
      sorted.Perm failures ∧ Ascending sorted := by
  induction failures with
  | nil => exact ⟨[], rfl, List.Perm.refl _, List.Pairwise.nil⟩
  | cons failure rest inductionHypothesis =>
      rw [List.map_cons, List.nodup_cons] at distinct
      obtain ⟨earlier, sorted, same, ascending⟩ := inductionHypothesis distinct.2
      have new : failure.1 ∉ earlier.map Prod.fst := by
        intro member
        exact distinct.1 ((same.map Prod.fst).mem_iff.mp member)
      obtain ⟨inserted, insertedSorted, insertedSame, insertedAscending⟩ :=
        insertBy_eq_ok compareFaults ascending new
      refine ⟨inserted, ?_, insertedSame.trans (same.cons failure), insertedAscending⟩
      simp only [sortBy, sorted]
      exact insertedSorted

/-- There is only one way to put failures in the order of their workers. -/
theorem Ascending.eq_of_perm {left right : List (Int × Fault)} (leftAscending : Ascending left)
    (rightAscending : Ascending right) (same : left.Perm right) : left = right := by
  apply same.eq_of_pairwise _ leftAscending rightAscending
  intro first second _ _ less greater
  omega

/-- The failures of different workers are kept, in the order of the workers. -/
theorem ofFailures_of_nodup {failures : List (Int × Fault)}
    (distinct : (failures.map Prod.fst).Nodup) (cause : Option Fault) :
    ∃ kept, ofFailures failures cause = .workersFailed kept cause ∧ kept.Perm failures ∧
      Ascending kept := by
  let atMost : Int × Fault → Int × Fault → Bool := fun left right => left.1 ≤ right.1
  refine ⟨failures.mergeSort atMost, ?_, List.mergeSort_perm failures atMost, ?_⟩
  · rw [ofFailures, Entries.ofList_of_nodup distinct]
  · have transitive : ∀ first second third, atMost first second = true →
        atMost second third = true → atMost first third = true := by
      intro first second third
      simp only [atMost, decide_eq_true_eq]
      omega
    have total : ∀ first second, (atMost first second || atMost second first) = true := by
      intro first second
      simp only [atMost, Bool.or_eq_true, decide_eq_true_eq]
      omega
    have ordered := List.pairwise_mergeSort transitive total failures
    have different : (failures.mergeSort atMost).Pairwise fun left right => left.1 ≠ right.1 := by
      have sortedDistinct : ((failures.mergeSort atMost).map Prod.fst).Nodup :=
        ((List.mergeSort_perm failures atMost).map Prod.fst).nodup_iff.mpr distinct
      exact List.pairwise_map.mp sortedDistinct
    apply (ordered.and different).imp
    intro left right both
    have lessOrEqual : left.1 ≤ right.1 := of_decide_eq_true both.1
    have notEqual : left.1 ≠ right.1 := both.2
    omega

/-! ## Texts -/

/-- What is said about one failure. -/
def failureText (failure : Int × Fault) : Text :=
  s!"worker {failure.1}: " ++ failure.2.message

theorem failureTexts_eq_joinWith (failures : List (Int × Fault)) :
    failureTexts failures = Text.joinWith "; " (failures.map failureText) := by
  induction failures with
  | nil => rfl
  | cons failure rest inductionHypothesis =>
      cases rest with
      | nil => rfl
      | cons next others =>
          rw [failureTexts, inductionHypothesis]
          simp only [List.map_cons, Text.joinWith, failureText, List.append_assoc]

/-- The text about several failures counts them and then says of each, once and in the order of the
workers, which fault it is. -/
theorem message_workersFailed (failures : List (Int × Fault)) (cause : Option Fault) :
    (workersFailed failures cause).message =
      s!"{failures.length} worker(s) failed; " ++
        Text.joinWith "; " (failures.map failureText) := by
  rw [message, failureTexts_eq_joinWith]

end Fault

/-! ## Settled tasks -/

namespace Future

/-- What is reported of tasks some of which have not returned: these, in the order of the workers,
each with its own fault or as cancelled, and as the cause the failure of the first of them. -/
structure AreReported (futures : List (Future β)) (failures : List (Int × Fault)) (cause : Fault) :
    Prop where
  ascending : Fault.Ascending failures
  exactly : ∀ worker fault, (worker, fault) ∈ failures ↔
    ∃ index : Nat, worker = index ∧ (futures[index]? = some (.failed fault) ∨
      (futures[index]? = some .cancelled ∧ fault = .cancelledBeforeRun index))
  first : ∃ failure ∈ failures, failure.2 = cause ∧ ∀ other ∈ failures, failure.1 ≤ other.1

theorem failure?_eq_some_iff {future : Future β} {position : Nat} {fault : Fault} :
    future.failure? position = some fault ↔
      future = .failed fault ∨ (future = .cancelled ∧ fault = .cancelledBeforeRun position) := by
  cases future with
  | waiting => simp [failure?]
  | returned result => simp [failure?]
  | failed present => simp [failure?]
  | cancelled => simp [failure?, eq_comm]

theorem areReported_failuresFrom {futures : List (Future β)} {first : Int × Fault}
    {others : List (Int × Fault)} (failures : failuresFrom 0 futures = first :: others) :
    AreReported futures (first :: others) first.2 := by
  have ascending := pairwise_failuresFrom futures 0
  rw [failures] at ascending
  refine ⟨ascending, ?_, first, List.mem_cons_self, rfl, ?_⟩
  · intro worker fault
    rw [← failures, mem_failuresFrom]
    simp only [failure?_eq_some_iff, Nat.zero_add]
    constructor
    · rintro ⟨index, future, found, rfl | ⟨rfl, same⟩, here⟩
      · exact ⟨index, here, Or.inl found⟩
      · exact ⟨index, here, Or.inr ⟨found, same⟩⟩
    · rintro ⟨index, here, found | ⟨found, same⟩⟩
      · exact ⟨index, .failed fault, found, Or.inl rfl, here⟩
      · exact ⟨index, .cancelled, found, Or.inr ⟨rfl, same⟩, here⟩
  · intro other member
    rcases List.mem_cons.mp member with rfl | later
    · exact Int.le_refl _
    · exact Int.le_of_lt (List.rel_of_pairwise_cons ascending later)

theorem exists_mem_failuresFrom_iff {futures : List (Future β)} :
    (∃ failure, failure ∈ failuresFrom 0 futures) ↔
      ∃ future ∈ futures, future = .cancelled ∨ ∃ fault, future = .failed fault := by
  constructor
  · rintro ⟨⟨place, fault⟩, member⟩
    obtain ⟨index, future, found, failed, _⟩ := mem_failuresFrom.mp member
    have present : future ∈ futures := List.mem_of_getElem? found
    rcases failure?_eq_some_iff.mp failed with same | ⟨same, _⟩
    · exact ⟨future, present, Or.inr ⟨fault, same⟩⟩
    · exact ⟨future, present, Or.inl same⟩
  · rintro ⟨future, present, failed⟩
    obtain ⟨index, found⟩ := List.mem_iff_getElem?.mp present
    have failure : ∃ fault, future.failure? (0 + index) = some fault := by
      rcases failed with rfl | ⟨fault, rfl⟩
      · exact ⟨_, rfl⟩
      · exact ⟨fault, rfl⟩
    obtain ⟨fault, same⟩ := failure
    exact ⟨_, mem_failuresFrom.mpr ⟨index, future, found, same, rfl⟩⟩

theorem results_map_returned (outcomes : List β) : results (outcomes.map .returned) = outcomes := by
  induction outcomes with
  | nil => rfl
  | cons outcome rest inductionHypothesis => exact congrArg (outcome :: ·) inductionHypothesis

theorem map_returned_results {futures : List (Future β)}
    (allReturned : ∀ future ∈ futures, ∃ outcome, future = .returned outcome) :
    (results futures).map .returned = futures := by
  induction futures with
  | nil => rfl
  | cons future rest inductionHypothesis =>
      obtain ⟨⟨outcome, rfl⟩, restReturned⟩ := List.forall_mem_cons.mp allReturned
      exact congrArg (Future.returned outcome :: ·) (inductionHypothesis restReturned)

theorem map_returned_results_of_no_failures {futures : List (Future β)}
    (settled : ∀ future ∈ futures, future.isSettled = true)
    (noFailures : failuresFrom 0 futures = []) : (results futures).map .returned = futures := by
  apply map_returned_results
  intro future member
  have notFailed : ¬ (future = .cancelled ∨ ∃ fault, future = .failed fault) := by
    intro failed
    obtain ⟨failure, reported⟩ := exists_mem_failuresFrom_iff.mpr ⟨future, member, failed⟩
    rw [noFailures] at reported
    cases reported
  cases future with
  | waiting => cases settled _ member
  | returned outcome => exact ⟨outcome, rfl⟩
  | failed fault => exact absurd (Or.inr ⟨fault, rfl⟩) notFailed
  | cancelled => exact absurd (Or.inl rfl) notFailed

/-- Of settled tasks all results are collected if all have returned, and otherwise exactly the
failures are reported. -/
theorem collect_of_isSettled {futures : List (Future β)}
    (settled : ∀ future ∈ futures, future.isSettled = true) :
    (∀ outcomes, collect futures = .ok outcomes ↔ futures = outcomes.map .returned) ∧
      ((∃ failures cause, collect futures = .error (.workersFailed failures (some cause)) ∧
          AreReported futures failures cause) ↔
        ∃ future ∈ futures, future = .cancelled ∨ ∃ fault, future = .failed fault) := by
  rw [← exists_mem_failuresFrom_iff]
  cases failures : failuresFrom 0 futures with
  | nil =>
      have returned := map_returned_results_of_no_failures settled failures
      have returns : collect futures = .ok (results futures) := by
        rw [collect, failures]
      rw [returns]
      constructor
      · intro outcomes
        constructor
        · rintro ⟨rfl⟩
          exact returned.symm
        · rintro rfl
          rw [results_map_returned]
      · constructor
        · rintro ⟨_, _, same, _⟩
          cases same
        · rintro ⟨_, member⟩
          cases member
  | cons first others =>
      have ascending := pairwise_failuresFrom futures 0
      rw [failures] at ascending
      have fails : collect futures = .error (.workersFailed (first :: others) (some first.2)) := by
        rw [collect, failures]
        simp only [Fault.ofFailures_of_pairwise ascending]
      rw [fails]
      constructor
      · intro outcomes
        constructor
        · intro same
          cases same
        · rintro rfl
          obtain ⟨future, member, failed⟩ :=
            exists_mem_failuresFrom_iff.mp ⟨first, failures ▸ List.mem_cons_self⟩
          obtain ⟨outcome, _, rfl⟩ := List.mem_map.mp member
          rcases failed with same | ⟨fault, same⟩
          · cases same
          · cases same
      · constructor
        · rintro _
          exact ⟨first, List.mem_cons_self⟩
        · rintro _
          exact ⟨first :: others, first.2, rfl, areReported_failuresFrom failures⟩

end Future

namespace Executor

variable {executor : Executor} {task : Nat → ι → Action σ β}

/-- All tasks are accepted, and in the end they have come to these futures. -/
def Settles (executor : Executor) (task : Nat → ι → Action σ β) (items : List ι) (before : σ)
    (futures : List (Future β)) (after : σ) : Prop :=
  ∃ submitted middle, executor.submitFrom task 0 items before = .ok ⟨submitted, none⟩ middle ∧
    finishFrom task 0 items submitted middle = .ok futures after

theorem Settles.runAll_eq {items : List ι} {before after : σ} {futures : List (Future β)}
    (settles : executor.Settles task items before futures after) :
    executor.runAll task items before =
      (Action.ofExcept (Future.collect futures) : Action σ (List β)) after := by
  obtain ⟨submitted, middle, accepted, finished⟩ := settles
  simp only [runAll, Action.bind_apply, accepted, finished]

/-- Of the tasks from some position on, so many are accepted. -/
def Accepts (executor : Executor) (position count : Nat) : Prop :=
  ∀ place, position ≤ place → place < position + count → ∀ fault, executor place ≠ .refuses fault

/-- So many tasks were submitted from some position on: either all of them were accepted, or those
before the first that was refused. -/
def Submits (executor : Executor) (position count : Nat) (submission : Submission β) : Prop :=
  executor.Accepts position submission.futures.length ∧
    match submission.refusal with
    | none => submission.futures.length = count
    | some fault => submission.futures.length < count ∧
        executor (position + submission.futures.length) = .refuses fault

theorem Submits.cons {position count : Nat} {submission : Submission β}
    (accepted : ∀ fault, executor position ≠ .refuses fault)
    (submits : executor.Submits (position + 1) count submission) (first : Future β) :
    executor.Submits position (count + 1)
      { submission with futures := first :: submission.futures } := by
  obtain ⟨accepts, stops⟩ := submits
  constructor
  · intro place lower upper
    rw [List.length_cons] at upper
    by_cases here : place = position
    · subst here
      exact accepted
    · exact accepts place (by omega) (by omega)
  · cases refusal : submission.refusal with
    | none =>
        rw [refusal] at stops
        exact congrArg Nat.succ stops
    | some fault =>
        rw [refusal] at stops
        obtain ⟨fewer, refused⟩ := stops
        have place : position + (first :: submission.futures).length =
            position + 1 + submission.futures.length := by
          rw [List.length_cons]
          omega
        exact ⟨Nat.succ_lt_succ fewer, place ▸ refused⟩

theorem exists_submitFrom_eq_ok (executor : Executor) (task : Nat → ι → Action σ β)
    (items : List ι) (position : Nat) (before : σ) :
    ∃ submission after, executor.submitFrom task position items before = .ok submission after ∧
      executor.Submits position items.length submission := by
  induction items generalizing position before with
  | nil =>
      refine ⟨⟨[], none⟩, before, rfl, ?_, rfl⟩
      intro place lower upper
      exact absurd upper (Nat.not_lt.mpr lower)
  | cons item rest inductionHypothesis =>
      -- Whatever the first future is, the others come from the rest of the tasks.
      have proceeds : ∀ (first : Future β) (middle : σ),
          (∀ fault, executor position ≠ .refuses fault) → ∃ submission after,
          (do
            let others ← submitFrom executor task (position + 1) rest
            return { others with futures := first :: others.futures } :
              Action σ (Submission β)) middle = .ok submission after ∧
            executor.Submits position (item :: rest).length submission := by
        intro first middle accepted
        obtain ⟨submission, after, submitted, submits⟩ := inductionHypothesis (position + 1) middle
        refine ⟨_, after, ?_, submits.cons accepted first⟩
        rw [Action.bind_apply, submitted]
        rfl
      rw [submitFrom]
      cases handling : executor position with
      | runs =>
          simp only
          rw [Action.bind_apply, Action.attempt_apply]
          exact proceeds _ _ (by simp [handling])
      | cancels => exact proceeds .cancelled before (by simp [handling])
      | loses fault => exact proceeds (.failed fault) before (by simp [handling])
      | delays => exact proceeds .waiting before (by simp [handling])
      | refuses fault =>
          refine ⟨⟨[], some fault⟩, before, rfl, ?_, Nat.succ_pos _, handling⟩
          intro place lower upper
          exact absurd upper (Nat.not_lt.mpr lower)

theorem exists_finish_eq_ok (action : Action σ β) (future : Future β) (before : σ) :
    ∃ settled after, finish action future before = .ok settled after ∧
      settled.isSettled = true := by
  cases future with
  | waiting =>
      refine ⟨.ofResult (action.outcome before), action.after before, ?_,
        Future.isSettled_ofResult _⟩
      rw [finish, Action.bind_apply, Action.attempt_apply]
      rfl
  | returned result => exact ⟨_, before, rfl, rfl⟩
  | failed fault => exact ⟨_, before, rfl, rfl⟩
  | cancelled => exact ⟨_, before, rfl, rfl⟩

theorem exists_finishFrom_eq_ok {items : List ι} {futures : List (Future β)}
    (count : futures.length = items.length) (position : Nat) (before : σ) :
    ∃ settled after, finishFrom task position items futures before = .ok settled after ∧
      settled.length = items.length ∧ ∀ future ∈ settled, future.isSettled = true := by
  induction items generalizing futures position before with
  | nil => exact ⟨[], before, rfl, rfl, fun future member => by cases member⟩
  | cons item rest inductionHypothesis =>
      cases futures with
      | nil => cases count
      | cons first others =>
          obtain ⟨head, middle, headFinished, headSettled⟩ :=
            exists_finish_eq_ok (task position item) first before
          obtain ⟨tail, after, tailFinished, tailCount, tailSettled⟩ :=
            inductionHypothesis (Nat.succ.inj count) (position + 1) middle
          refine ⟨head :: tail, after, ?_, congrArg Nat.succ tailCount,
            List.forall_mem_cons.mpr ⟨headSettled, tailSettled⟩⟩
          simp only [finishFrom, Action.bind_apply, headFinished, tailFinished, Action.pure_apply]

/-- Tasks that are all accepted all come to an end. -/
theorem exists_settles (task : Nat → ι → Action σ β) {items : List ι}
    (accepts : ∀ place < items.length, ∀ fault, executor place ≠ .refuses fault) (before : σ) :
    ∃ futures after, executor.Settles task items before futures after ∧
      futures.length = items.length ∧ ∀ future ∈ futures, future.isSettled = true := by
  obtain ⟨⟨submitted, refusal⟩, middle, accepted, submits⟩ :=
    exists_submitFrom_eq_ok executor task items 0 before
  obtain ⟨-, stops⟩ := submits
  cases refusal with
  | some fault =>
      obtain ⟨fewer, refused⟩ := stops
      rw [Nat.zero_add] at refused
      exact absurd refused (accepts _ fewer fault)
  | none =>
      obtain ⟨settled, after, finished, length, allSettled⟩ :=
        exists_finishFrom_eq_ok stops 0 middle
      exact ⟨settled, after, ⟨submitted, middle, accepted, finished⟩, length, allSettled⟩

/-! ## Every combination occurs -/

/-- The executor that cancels exactly those tasks that end as cancelled. -/
def endingIn (states : List (Future β)) : Executor := fun place =>
  match states[place]? with
  | some .cancelled => .cancels
  | _ => .runs

/-- The task that ends in the given state, unless that is to be cancelled. -/
def ending : Future β → Action σ β
  | .returned result => pure result
  | .failed fault => throw fault
  | _ => throw .executorClosed

theorem submitFrom_endingIn {states later : List (Future β)} (earlier : List (Future β))
    (divided : states = earlier ++ later)
    (settled : ∀ state ∈ later, state.isSettled = true) (before : σ) :
    (endingIn states).submitFrom (fun _ => ending) earlier.length later before =
      .ok ⟨later, none⟩ before := by
  induction later generalizing earlier with
  | nil => rfl
  | cons state rest inductionHypothesis =>
      obtain ⟨stateSettled, restSettled⟩ := List.forall_mem_cons.mp settled
      have restDivided : states = (earlier ++ [state]) ++ rest := by
        rw [divided, List.append_assoc, List.singleton_append]
      have submitted := inductionHypothesis (earlier ++ [state]) restDivided restSettled
      rw [List.length_append, List.length_singleton] at submitted
      have present : states[earlier.length]? = some state := by
        rw [divided, List.getElem?_append_right (Nat.le_refl _), Nat.sub_self]
        rfl
      cases state with
      | waiting => cases stateSettled
      | returned result =>
          have handling : endingIn states earlier.length = .runs := by
            simp only [endingIn, present]
          simp only [submitFrom, handling, Action.bind_apply, Action.attempt, ending,
            Action.pure_apply, submitted]
          rfl
      | failed fault =>
          have handling : endingIn states earlier.length = .runs := by
            simp only [endingIn, present]
          simp only [submitFrom, handling, Action.bind_apply, Action.attempt, ending,
            Action.throw_apply, submitted]
          rfl
      | cancelled =>
          have handling : endingIn states earlier.length = .cancels := by
            simp only [endingIn, present]
          simp only [submitFrom, handling, Action.bind_apply, submitted, Action.pure_apply]

theorem finish_of_isSettled (action : Action σ β) {future : Future β}
    (settled : future.isSettled = true) : finish action future = pure future := by
  cases future with
  | waiting => cases settled
  | returned result => rfl
  | failed fault => rfl
  | cancelled => rfl

theorem finishFrom_of_isSettled (task : Nat → Future β → Action σ β) (position : Nat)
    {futures : List (Future β)} (settled : ∀ future ∈ futures, future.isSettled = true) :
    finishFrom task position futures futures = pure futures := by
  induction futures generalizing position with
  | nil => rfl
  | cons future rest inductionHypothesis =>
      obtain ⟨futureSettled, restSettled⟩ := List.forall_mem_cons.mp settled
      simp only [finishFrom, finish_of_isSettled _ futureSettled,
        inductionHypothesis (position + 1) restSettled, pure_bind]

/-- Tasks can come to any combination of final states. -/
theorem settles_endingIn {states : List (Future β)}
    (settled : ∀ state ∈ states, state.isSettled = true) (before : σ) :
    (endingIn states).Settles (fun _ => ending) states before states before := by
  refine ⟨states, before, submitFrom_endingIn [] rfl settled before, ?_⟩
  rw [finishFrom_of_isSettled _ 0 settled]
  rfl

end Executor

/-! ## Reports -/

/-- Once every task is accepted, all come to an end, and every combination of ends can occur.  If
all tasks return, their results are returned in order.  If some fail or are cancelled, these are
reported, each with its own fault, and the failure of the first of them is the cause.  And a report
about any failures of different workers keeps exactly these, in the order of the workers, for which
no two faults are compared, and its text names each worker once in that order. -/
theorem runAll_reports {executor : Executor} (task : Nat → ι → Action σ β) {items : List ι}
    (accepts : ∀ place < items.length, ∀ fault, executor place ≠ .refuses fault) (before : σ) :
    (∃ futures after, executor.Settles task items before futures after ∧
      futures.length = items.length ∧ (∀ future ∈ futures, future.isSettled = true) ∧
      (∀ outcomes, executor.runAll task items before = .ok outcomes after ↔
        futures = outcomes.map .returned) ∧
      ((∃ failures cause, executor.runAll task items before =
            .error (.workersFailed failures (some cause)) after ∧
          Future.AreReported futures failures cause) ↔
        ∃ future ∈ futures, future = .cancelled ∨ ∃ fault, future = .failed fault)) ∧
    (∀ states : List (Future β), (∀ state ∈ states, state.isSettled = true) →
      ∃ (accepting : Executor) (ending : Nat → Future β → Action σ β),
        accepting.Settles ending states before states before) ∧
    (∀ worker, (Fault.cancelledBeforeRun worker).kind = .cancelledError ∧
      (Fault.cancelledBeforeRun worker).message = s!"worker {worker} was cancelled before it ran") ∧
    ∀ (failures : List (Int × Fault)) (cause : Option Fault), (failures.map Prod.fst).Nodup →
      ∃ kept, Fault.ofFailures failures cause = .workersFailed kept cause ∧
        kept.Perm failures ∧ Fault.Ascending kept ∧
        (∀ compareFaults, sortBy (Fault.precedes compareFaults) failures = .ok kept ∧
          ∀ left ∈ failures, ∀ right ∈ failures, left ≠ right →
            Fault.precedes compareFaults left right = .ok (decide (left.1 < right.1))) ∧
        (Fault.ofFailures failures cause).message =
          s!"{kept.length} worker(s) failed; " ++
            Text.joinWith "; " (kept.map fun failure =>
              s!"worker {failure.1}: " ++ failure.2.message) := by
  refine ⟨?_, ?_, fun worker => ⟨rfl, rfl⟩, ?_⟩
  · obtain ⟨futures, after, settles, length, settled⟩ :=
      Executor.exists_settles task accepts before
    refine ⟨futures, after, settles, length, settled, ?_⟩
    obtain ⟨returns, reports⟩ := Future.collect_of_isSettled settled
    simp only [settles.runAll_eq, Action.ofExcept_eq_ok_iff, Action.ofExcept_eq_error_iff,
      and_true]
    exact ⟨returns, reports⟩
  · intro states settled
    exact ⟨_, _, Executor.settles_endingIn settled before⟩
  · intro failures cause distinct
    obtain ⟨kept, reported, same, ascending⟩ := Fault.ofFailures_of_nodup distinct cause
    refine ⟨kept, reported, same, ascending, ?_, ?_⟩
    · intro compareFaults
      obtain ⟨sorted, sorts, sortedSame, sortedAscending⟩ :=
        Fault.sortBy_eq_ok compareFaults distinct
      have equal : sorted = kept :=
        sortedAscending.eq_of_perm ascending (sortedSame.trans same.symm)
      refine ⟨by rw [sorts, equal], ?_⟩
      intro left leftMember right rightMember different
      apply Fault.precedes_of_ne
      intro sameWorker
      exact different (List.inj_on_of_nodup_map distinct leftMember rightMember sameWorker)
    · rw [reported]
      exact Fault.message_workersFailed kept cause

theorem runAll_reports_mixed :
    let stop : Fault := .raised .keyboardInterrupt "stop"
    let executor : Executor := fun place => if place = 2 then .cancels else .runs
    let task : Nat → Unit → Action Unit Nat := fun place _ =>
      if place = 1 then throw stop else pure place
    (∃ failures cause, executor.runAll task [(), (), ()] () =
        .error (.workersFailed failures (some cause)) () ∧
      Future.AreReported [.returned 0, .failed stop, .cancelled] failures cause) ∧
    ∃ kept, Fault.ofFailures [(3, stop), (1, .executorClosed)] none = .workersFailed kept none ∧
      kept.Perm [(3, stop), (1, .executorClosed)] ∧ Fault.Ascending kept := by
  intro stop executor task
  have accepts : ∀ place < [(), (), ()].length, ∀ fault, executor place ≠ .refuses fault := by
    intro place _ fault
    simp only [executor]
    split
    · nofun
    · nofun
  obtain ⟨⟨futures, after, ⟨_, _, accepted, finished⟩, _, _, _, reports⟩, _, _, keeps⟩ :=
    runAll_reports task accepts ()
  cases accepted
  cases finished
  refine ⟨reports.mpr ⟨.cancelled, by simp, Or.inl rfl⟩, ?_⟩
  obtain ⟨kept, reported, same, ascending, _⟩ :=
    keeps [(3, stop), (1, .executorClosed)] none (by decide)
  exact ⟨kept, reported, same, ascending⟩

end RandomSearch
