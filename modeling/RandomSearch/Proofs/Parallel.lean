import RandomSearch.Parallel.Executor
import RandomSearch.Parallel.Turns
import RandomSearch.Proofs.Action

/-!
# Tasks side by side

Two facts carry over from single tasks to many of them, whoever runs them and in whatever turns.
What holds of everything a task can return holds of all results that are collected.  And tasks that
leave their surroundings as they are give what each of them gives alone.
-/

namespace RandomSearch

variable {σ τ ι β : Type}

/-! ## Collecting -/

namespace Future

/-- If a task has returned, then something with the given property. -/
def Earned (Property : β → Prop) (future : Future β) : Prop :=
  ∀ result, future = .returned result → Property result

theorem earned_ofResult {Property : β → Prop} {result : Except Fault β}
    (holds : ∀ value, result = .ok value → Property value) : (ofResult result).Earned Property := by
  intro value same
  cases result with
  | ok present =>
      cases same
      exact holds value rfl
  | error fault => cases same

theorem mem_results {futures : List (Future β)} {result : β} (member : result ∈ results futures) :
    .returned result ∈ futures := by
  induction futures with
  | nil => cases member
  | cons future rest inductionHypothesis =>
      cases future with
      | returned present =>
          rcases List.mem_cons.mp member with same | later
          · subst same
            exact List.mem_cons_self
          · exact List.mem_cons_of_mem _ (inductionHypothesis later)
      | waiting => exact List.mem_cons_of_mem _ (inductionHypothesis member)
      | failed fault => exact List.mem_cons_of_mem _ (inductionHypothesis member)
      | cancelled => exact List.mem_cons_of_mem _ (inductionHypothesis member)

theorem collect_earned {Property : β → Prop} {futures : List (Future β)} {collected : List β}
    (earned : ∀ future ∈ futures, future.Earned Property)
    (collects : collect futures = .ok collected) : ∀ result ∈ collected, Property result := by
  unfold collect at collects
  split at collects
  · cases collects
    intro result member
    exact earned _ (mem_results member) result rfl
  · cases collects

theorem mem_failuresFrom_cons {future : Future β} {rest : List (Future β)} {position : Nat}
    {place : Int} {fault : Fault} :
    (place, fault) ∈ failuresFrom position (future :: rest) ↔
      (place = position ∧ future.failure? position = some fault) ∨
        (place, fault) ∈ failuresFrom (position + 1) rest := by
  rw [failuresFrom]
  cases failed : future.failure? position with
  | none => simp
  | some present => simp [eq_comm]

/-- The failures that are reported are those of the tasks that failed, each with the position of its
task. -/
theorem mem_failuresFrom {futures : List (Future β)} {position : Nat} {place : Int}
    {fault : Fault} :
    (place, fault) ∈ failuresFrom position futures ↔
      ∃ (index : Nat) (future : Future β), futures[index]? = some future ∧
        future.failure? (position + index) = some fault ∧ place = (position + index : Nat) := by
  induction futures generalizing position with
  | nil => simp [failuresFrom]
  | cons first rest inductionHypothesis =>
      rw [mem_failuresFrom_cons, inductionHypothesis]
      constructor
      · rintro (⟨rfl, failed⟩ | ⟨index, future, found, failed, rfl⟩)
        · exact ⟨0, first, rfl, failed, rfl⟩
        · refine ⟨index + 1, future, found, ?_, ?_⟩
          · rwa [Nat.add_assoc, Nat.add_comm 1] at failed
          · omega
      · rintro ⟨index, future, found, failed, rfl⟩
        cases index with
        | zero =>
            cases found
            exact Or.inl ⟨rfl, failed⟩
        | succ index =>
            refine Or.inr ⟨index, future, found, ?_, ?_⟩
            · rwa [Nat.add_assoc, Nat.add_comm 1]
            · omega

theorem pairwise_failuresFrom (futures : List (Future β)) (position : Nat) :
    (failuresFrom position futures).Pairwise fun left right => left.1 < right.1 := by
  induction futures generalizing position with
  | nil => exact List.Pairwise.nil
  | cons future rest inductionHypothesis =>
      have later := inductionHypothesis (position + 1)
      rw [failuresFrom]
      cases failed : future.failure? position with
      | none => exact later
      | some fault =>
          refine List.pairwise_cons.mpr ⟨?_, later⟩
          rintro ⟨place, present⟩ member
          obtain ⟨index, other, _, _, rfl⟩ := mem_failuresFrom.mp member
          simp only
          omega

/-- The failures among the results of tasks, each with the position of its task. -/
def failuresOf (results : List (Except Fault β × Nat)) : List (Int × Fault) :=
  results.filterMap fun (result, position) =>
    match result with
    | .ok _ => none
    | .error fault => some (position, fault)

theorem failuresFrom_map_ofResult (results : List (Except Fault β)) (position : Nat) :
    failuresFrom position (results.map ofResult) = failuresOf (results.zipIdx position) := by
  induction results generalizing position with
  | nil => rfl
  | cons result rest inductionHypothesis =>
      have later := inductionHypothesis (position + 1)
      cases result with
      | ok value => simpa [failuresFrom, failuresOf, failure?, ofResult] using later
      | error fault => simpa [failuresFrom, failuresOf, failure?, ofResult] using later

theorem failure?_ofResult {result : Except Fault β} {position : Nat} {fault : Fault} :
    (ofResult result).failure? position = some fault ↔ result = .error fault := by
  cases result with
  | ok value => simp [ofResult, failure?]
  | error present => simp [ofResult, failure?]

theorem mem_failuresOf_zipIdx {results : List (Except Fault β)} {position : Nat} {place : Int}
    {fault : Fault} :
    (place, fault) ∈ failuresOf (results.zipIdx position) ↔
      ∃ index : Nat, results[index]? = some (.error fault) ∧ place = (position + index : Nat) := by
  rw [← failuresFrom_map_ofResult, mem_failuresFrom]
  constructor
  · rintro ⟨index, future, found, failed, rfl⟩
    rw [List.getElem?_map] at found
    obtain ⟨result, present, rfl⟩ := Option.map_eq_some_iff.mp found
    cases failure?_ofResult.mp failed
    exact ⟨index, present, rfl⟩
  · rintro ⟨index, present, rfl⟩
    refine ⟨index, ofResult (.error fault), ?_, rfl, rfl⟩
    rw [List.getElem?_map, present]
    rfl

theorem pairwise_failuresOf_zipIdx (results : List (Except Fault β)) (position : Nat) :
    (failuresOf (results.zipIdx position)).Pairwise fun left right => left.1 < right.1 := by
  rw [← failuresFrom_map_ofResult]
  exact pairwise_failuresFrom _ position

end Future

/-- Failures that are listed in the order of their workers are reported as they are. -/
theorem Fault.ofFailures_of_pairwise {failures : List (Int × Fault)}
    (ascending : failures.Pairwise fun left right => left.1 < right.1) (cause : Option Fault) :
    Fault.ofFailures failures cause = .workersFailed failures cause := by
  have distinct : (failures.map Prod.fst).Nodup :=
    List.pairwise_map.mpr (ascending.imp fun less => Int.ne_of_lt less)
  unfold Fault.ofFailures
  rw [Entries.ofList_of_nodup distinct]
  congr 1
  apply List.mergeSort_of_pairwise
  exact ascending.imp fun less => decide_eq_true (Int.le_of_lt less)

namespace Future

/-- If a task has failed, all failures are reported, and the first of them is their cause. -/
theorem collect_of_error {results : List (Except Fault β)} {first : Int × Fault}
    {others : List (Int × Fault)} (failed : failuresOf results.zipIdx = first :: others) :
    collect (results.map ofResult) =
      .error (.workersFailed (first :: others) (some first.2)) := by
  have ascending := pairwise_failuresOf_zipIdx results 0
  rw [failed] at ascending
  unfold collect
  rw [failuresFrom_map_ofResult, failed]
  simp only [Fault.ofFailures_of_pairwise ascending]

theorem results_map_ofResult_ok (values : List β) :
    results (values.map fun value => ofResult (.ok value)) = values := by
  induction values with
  | nil => rfl
  | cons value rest inductionHypothesis =>
      simpa [results, ofResult] using inductionHypothesis

/-- If all tasks have returned, their results are collected. -/
theorem collect_of_ok (values : List β) :
    collect ((values.map Except.ok).map ofResult) = .ok values := by
  have failures : failuresOf (values.map Except.ok).zipIdx = [] := by
    rw [List.eq_nil_iff_forall_not_mem]
    rintro ⟨place, fault⟩ member
    obtain ⟨index, found, _⟩ := mem_failuresOf_zipIdx.mp member
    rw [List.getElem?_map] at found
    cases value : values[index]? with
    | none =>
        rw [value] at found
        cases found
    | some present =>
        rw [value] at found
        cases found
  unfold collect
  rw [failuresFrom_map_ofResult, failures, List.map_map]
  exact congrArg Except.ok (results_map_ofResult_ok values)

end Future

/-! ## Executors -/

namespace Executor

variable {task : Nat → ι → Action σ β}

theorem submitFrom_earned {Property : β → Prop} (executor : Executor)
    (earns : ∀ position item before result after,
      task position item before = .ok result after → Property result)
    {items : List ι} {position : Nat} {before after : σ} {submission : Submission β}
    (submitted : executor.submitFrom task position items before = .ok submission after) :
    ∀ future ∈ submission.futures, future.Earned Property := by
  induction items generalizing position before after submission with
  | nil =>
      cases submitted
      intro future member
      cases member
  | cons item rest inductionHypothesis =>
      -- Whatever the first future is, the others come from the rest of the tasks.
      have proceeds : ∀ {first : Future β} {middle : σ}, first.Earned Property →
          (do
            let others ← submitFrom executor task (position + 1) rest
            return { others with futures := first :: others.futures } :
              Action σ (Submission β)) middle = .ok submission after →
          ∀ future ∈ submission.futures, future.Earned Property := by
        intro first middle earned ran
        obtain ⟨others, last, later, same⟩ := Action.bind_eq_ok_iff.mp ran
        cases same
        intro future member
        rcases List.mem_cons.mp member with rfl | found
        · exact earned
        · exact inductionHypothesis later future found
      unfold submitFrom at submitted
      split at submitted
      · obtain ⟨result, middle, attempted, later⟩ := Action.bind_eq_ok_iff.mp submitted
        refine proceeds (Future.earned_ofResult fun value same => ?_) later
        rw [Action.attempt_apply] at attempted
        cases attempted
        obtain ⟨last, ran⟩ := Action.outcome_eq_ok_iff.mp same
        exact earns position item before value last ran
      · exact proceeds (fun _ same => by cases same) submitted
      · exact proceeds (fun _ same => by cases same) submitted
      · exact proceeds (fun _ same => by cases same) submitted
      · cases submitted
        intro future member
        cases member

theorem finish_earned {Property : β → Prop} {action : Action σ β} {future settled : Future β}
    {before after : σ}
    (earns : ∀ result last, action before = .ok result last → Property result)
    (earned : future.Earned Property)
    (finished : finish action future before = .ok settled after) : settled.Earned Property := by
  cases future with
  | waiting =>
      obtain ⟨result, middle, attempted, same⟩ := Action.bind_eq_ok_iff.mp finished
      rw [Action.attempt_apply] at attempted
      cases attempted
      cases same
      refine Future.earned_ofResult fun value returned => ?_
      obtain ⟨last, ran⟩ := Action.outcome_eq_ok_iff.mp returned
      exact earns value last ran
  | returned result =>
      cases finished
      exact earned
  | failed fault =>
      cases finished
      exact earned
  | cancelled =>
      cases finished
      exact earned

theorem finishFrom_earned {Property : β → Prop}
    (earns : ∀ position item before result after,
      task position item before = .ok result after → Property result)
    {items : List ι} {position : Nat} {futures settled : List (Future β)} {before after : σ}
    (earned : ∀ future ∈ futures, future.Earned Property)
    (finished : finishFrom task position items futures before = .ok settled after) :
    ∀ future ∈ settled, future.Earned Property := by
  induction items generalizing position futures settled before after with
  | nil =>
      cases finished
      intro future member
      cases member
  | cons item rest inductionHypothesis =>
      cases futures with
      | nil =>
          cases finished
          intro future member
          cases member
      | cons first others =>
          obtain ⟨head, middle, headFinished, later⟩ := Action.bind_eq_ok_iff.mp finished
          obtain ⟨tail, last, tailFinished, same⟩ := Action.bind_eq_ok_iff.mp later
          cases same
          intro future member
          rcases List.mem_cons.mp member with rfl | found
          · exact finish_earned (earns position item before)
              (earned first List.mem_cons_self) headFinished
          · exact inductionHypothesis
              (fun other present => earned other (List.mem_cons_of_mem first present))
              tailFinished future found

/-- What holds of everything a task can return holds of all results. -/
theorem runAll_earned {Property : β → Prop} {executor : Executor}
    (earns : ∀ position item before result after,
      task position item before = .ok result after → Property result)
    {items : List ι} {results : List β} {before after : σ}
    (ran : executor.runAll task items before = .ok results after) :
    ∀ result ∈ results, Property result := by
  obtain ⟨⟨submittedFutures, refusal⟩, middle, submitted, waited⟩ := Action.bind_eq_ok_iff.mp ran
  have submittedEarned := submitFrom_earned executor earns submitted
  cases refusal with
  | some fault => cases waited
  | none =>
    obtain ⟨futures, last, finished, collects⟩ := Action.bind_eq_ok_iff.mp waited
    have earned := finishFrom_earned earns submittedEarned finished
    exact Future.collect_earned earned (Action.ofExcept_eq_ok_iff.mp collects).1

/-- What each of the tasks from some position on gives alone. -/
def alone (task : Nat → ι → Action σ β) (surroundings : σ) (items : List ι) (position : Nat) :
    List (Except Fault β) :=
  (items.zipIdx position).map fun (item, place) => (task place item).outcome surroundings

theorem getElem?_alone (task : Nat → ι → Action σ β) (surroundings : σ) (items : List ι)
    (index : Nat) :
    (alone task surroundings items 0)[index]? =
      items[index]?.map fun item => (task index item).outcome surroundings := by
  unfold alone
  rw [List.getElem?_map, List.getElem?_zipIdx, Option.map_map]
  simp only [Nat.zero_add]
  rfl

/-- Tasks that always return give one result each. -/
theorem exists_alone_eq_ok {Property : β → Prop}
    (yields : ∀ position item, (task position item).Yields Property) (surroundings : σ)
    (items : List ι) (position : Nat) :
    ∃ results : List β, alone task surroundings items position = results.map Except.ok ∧
      results.length = items.length ∧ ∀ result ∈ results, Property result := by
  induction items generalizing position with
  | nil => exact ⟨[], rfl, rfl, fun result member => by cases member⟩
  | cons item rest inductionHypothesis =>
      obtain ⟨result, ran, holds⟩ := (yields position item).outcome surroundings
      obtain ⟨results, same, count, hold⟩ := inductionHypothesis (position + 1)
      refine ⟨result :: results, ?_, congrArg Nat.succ count,
        List.forall_mem_cons.mpr ⟨holds, hold⟩⟩
      unfold alone at same ⊢
      rw [List.zipIdx_cons, List.map_cons, List.map_cons, same]
      exact congrArg (· :: _) ran

/-- Tasks that leave their surroundings as they are can be run at once or can wait: once all are
finished there is no difference. -/
theorem submitFrom_finishFrom_of_keeps {executor : Executor}
    (keeps : ∀ position item, (task position item).Keeps) (items : List ι) (position : Nat)
    (runs : ∀ place, position ≤ place → place < position + items.length →
      executor place = .runs ∨ executor place = .delays) (surroundings : σ) :
    ∃ futures,
      executor.submitFrom task position items surroundings = .ok ⟨futures, none⟩ surroundings ∧
        finishFrom task position items futures surroundings =
          .ok ((alone task surroundings items position).map Future.ofResult) surroundings := by
  induction items generalizing position with
  | nil => exact ⟨[], rfl, rfl⟩
  | cons item rest inductionHypothesis =>
      have laterRuns : ∀ place, position + 1 ≤ place → place < position + 1 + rest.length →
          executor place = .runs ∨ executor place = .delays := by
        intro place lower upper
        refine runs place (by omega) ?_
        rw [List.length_cons]
        omega
      obtain ⟨futures, submitted, finished⟩ := inductionHypothesis (position + 1) laterRuns
      have attempted : (task position item).attempt surroundings =
          .ok ((task position item).outcome surroundings) surroundings := by
        rw [Action.attempt_apply, keeps position item surroundings]
      rcases runs position (Nat.le_refl position) (by simp) with runsNow | waits
      · refine ⟨.ofResult ((task position item).outcome surroundings) :: futures, ?_, ?_⟩
        · simp only [submitFrom, runsNow, Action.bind_apply, attempted, submitted,
            Action.pure_apply]
        · have settled : finish (task position item)
              (.ofResult ((task position item).outcome surroundings)) surroundings =
                .ok (.ofResult ((task position item).outcome surroundings)) surroundings := by
            cases (task position item).outcome surroundings with
            | ok result => rfl
            | error fault => rfl
          simp only [finishFrom, Action.bind_apply, settled, finished, Action.pure_apply, alone,
            List.zipIdx_cons, List.map_cons]
      · refine ⟨.waiting :: futures, ?_, ?_⟩
        · simp only [submitFrom, waits, Action.bind_apply, submitted, Action.pure_apply]
        · simp only [finishFrom, finish, Action.bind_apply, attempted, finished,
            Action.pure_apply, alone, List.zipIdx_cons, List.map_cons]

/-- An executor that runs every task collects what each of them gives alone. -/
theorem runAll_of_keeps {executor : Executor}
    (keeps : ∀ position item, (task position item).Keeps) {items : List ι}
    (runs : ∀ place < items.length, executor place = .runs ∨ executor place = .delays)
    (surroundings : σ) :
    executor.runAll task items surroundings =
      (Action.ofExcept (Future.collect ((alone task surroundings items 0).map Future.ofResult)) :
        Action σ (List β)) surroundings := by
  obtain ⟨futures, submitted, finished⟩ := submitFrom_finishFrom_of_keeps keeps items 0
    (fun place _ upper => runs place (by omega)) surroundings
  simp only [runAll, Action.bind_apply, submitted, finished]

theorem keeps_submitFrom (executor : Executor)
    (keeps : ∀ position item, (task position item).Keeps) (items : List ι) (position : Nat) :
    (executor.submitFrom task position items).Keeps := by
  induction items generalizing position with
  | nil => exact Action.keeps_pure _
  | cons item rest inductionHypothesis =>
      have proceeds : ∀ future : Future β,
          (do
            let others ← submitFrom executor task (position + 1) rest
            return { others with futures := future :: others.futures } :
              Action σ (Submission β)).Keeps :=
        fun future => (inductionHypothesis (position + 1)).bind fun others => Action.keeps_pure _
      unfold submitFrom
      cases executor position with
      | runs => exact (keeps position item).attempt.bind fun result => proceeds (.ofResult result)
      | cancels => exact proceeds .cancelled
      | loses fault => exact proceeds (.failed fault)
      | delays => exact proceeds .waiting
      | refuses fault => exact Action.keeps_pure _

theorem keeps_finishFrom (keeps : ∀ position item, (task position item).Keeps) (items : List ι)
    (position : Nat) (futures : List (Future β)) :
    (finishFrom task position items futures).Keeps := by
  induction items generalizing position futures with
  | nil => exact Action.keeps_pure []
  | cons item rest inductionHypothesis =>
      cases futures with
      | nil => exact Action.keeps_pure []
      | cons future later =>
          have finishes : (finish (task position item) future).Keeps := by
            cases future with
            | waiting => exact (keeps position item).attempt.bind fun _ => Action.keeps_pure _
            | returned result => exact Action.keeps_pure _
            | failed fault => exact Action.keeps_pure _
            | cancelled => exact Action.keeps_pure _
          exact finishes.bind fun settled =>
            (inductionHypothesis (position + 1) later).bind fun others => Action.keeps_pure _

/-- Whatever an executor does with tasks that leave their surroundings as they are, it leaves these
as they are. -/
theorem keeps_runAll (executor : Executor) (keeps : ∀ position item, (task position item).Keeps)
    (items : List ι) : (executor.runAll task items).Keeps := by
  apply (executor.keeps_submitFrom keeps items 0).bind
  rintro ⟨futures, refusal⟩
  cases refusal with
  | some fault => exact Action.keeps_ofExcept (.error fault)
  | none =>
      exact (keeps_finishFrom keeps items 0 futures).bind fun settled => Action.keeps_ofExcept _

end Executor

/-! ## Turns -/

namespace Work

variable {work : Work σ τ β}

theorem takeTurns_forall {Good : τ → Prop}
    (kept : ∀ stage surroundings, Good stage → Good (work.advance stage surroundings).1)
    (turns : List Nat) (stages : List τ) (surroundings : σ)
    (good : ∀ stage ∈ stages, Good stage) :
    ∀ stage ∈ (work.takeTurns turns stages surroundings).1, Good stage := by
  induction turns generalizing stages surroundings with
  | nil => exact good
  | cons position later inductionHypothesis =>
      apply inductionHypothesis
      intro stage member
      unfold turn at member
      cases found : stages[position]? with
      | none =>
          rw [found] at member
          exact good stage member
      | some moving =>
          rw [found] at member
          rcases List.mem_or_eq_of_mem_set member with present | moved
          · exact good stage present
          · subst moved
            exact kept moving surroundings (good moving (List.mem_of_getElem? found))

theorem finishAll_earned {Property : β → Prop} {Good : τ → Prop}
    (earns : ∀ stage before result after, Good stage →
      work.finish stage before = .ok result after → Property result)
    {stages : List τ} {futures : List (Future β)} {before after : σ}
    (good : ∀ stage ∈ stages, Good stage)
    (finished : work.finishAll stages before = .ok futures after) :
    ∀ future ∈ futures, future.Earned Property := by
  induction stages generalizing before after futures with
  | nil =>
      cases finished
      intro future member
      cases member
  | cons stage rest inductionHypothesis =>
      obtain ⟨result, middle, attempted, later⟩ := Action.bind_eq_ok_iff.mp finished
      obtain ⟨others, last, othersFinished, same⟩ := Action.bind_eq_ok_iff.mp later
      cases same
      intro future member
      rcases List.mem_cons.mp member with rfl | found
      · refine Future.earned_ofResult fun value returned => ?_
        rw [Action.attempt_apply] at attempted
        cases attempted
        obtain ⟨final, ran⟩ := Action.outcome_eq_ok_iff.mp returned
        exact earns stage before value final (good stage List.mem_cons_self) ran
      · exact inductionHypothesis
          (fun other present => good other (List.mem_cons_of_mem stage present))
          othersFinished future found

/-- What holds of everything that good stages lead to holds of all results, if steps lead from good
stages to good ones. -/
theorem runInTurns_earned {Property : β → Prop} {Good : τ → Prop}
    (kept : ∀ stage surroundings, Good stage → Good (work.advance stage surroundings).1)
    (earns : ∀ stage before result after, Good stage →
      work.finish stage before = .ok result after → Property result)
    {turns : List Nat} {stages : List τ} {results : List β} {before after : σ}
    (good : ∀ stage ∈ stages, Good stage)
    (ran : work.runInTurns turns stages before = .ok results after) :
    ∀ result ∈ results, Property result := by
  obtain ⟨moved, middle, turnsTaken, later⟩ := Action.bind_eq_ok_iff.mp ran
  cases turnsTaken
  obtain ⟨futures, last, finished, collects⟩ := Action.bind_eq_ok_iff.mp later
  have earned := finishAll_earned earns (takeTurns_forall kept turns stages before good) finished
  exact Future.collect_earned earned (Action.ofExcept_eq_ok_iff.mp collects).1

/-- A step is part of what is left to do: taking it first makes no difference. -/
def IsSound (work : Work σ τ β) : Prop :=
  ∀ stage surroundings,
    work.finish (work.advance stage surroundings).1 (work.advance stage surroundings).2 =
      work.finish stage surroundings

/-- Neither a step nor all that is left to do changes the surroundings. -/
structure Keeps (work : Work σ τ β) : Prop where
  advance : ∀ stage surroundings, (work.advance stage surroundings).2 = surroundings
  finish : ∀ stage, (work.finish stage).Keeps

/-- What each task will have come to. -/
def prospects (work : Work σ τ β) (stages : List τ) (surroundings : σ) : List (Except Fault β) :=
  stages.map fun stage => (work.finish stage).outcome surroundings

theorem outcome_finish_advance (sound : work.IsSound) (keeps : work.Keeps) (stage : τ)
    (surroundings : σ) :
    (work.finish (work.advance stage surroundings).1).outcome surroundings =
      (work.finish stage).outcome surroundings := by
  have same := sound stage surroundings
  rw [keeps.advance] at same
  unfold Action.outcome
  rw [same]

/-- A turn changes neither the surroundings nor what any task will have come to. -/
theorem turn_of_keeps (sound : work.IsSound) (keeps : work.Keeps) (position : Nat)
    (stages : List τ) (surroundings : σ) :
    (work.turn position stages surroundings).2 = surroundings ∧
      work.prospects (work.turn position stages surroundings).1 surroundings =
        work.prospects stages surroundings := by
  unfold turn
  cases found : stages[position]? with
  | none => exact ⟨rfl, rfl⟩
  | some stage =>
      refine ⟨keeps.advance stage surroundings, ?_⟩
      unfold prospects
      rw [List.map_set, outcome_finish_advance sound keeps]
      apply List.ext_getElem?
      intro place
      rw [List.getElem?_set]
      split
      · rename_i here
        subst here
        rw [List.getElem?_map, found, List.length_map]
        have inside : position < stages.length := (List.getElem?_eq_some_iff.mp found).1
        rw [if_pos inside]
        rfl
      · rfl

/-- However many turns are taken in whatever order, nothing changes that a task could notice, nor
what any of them will have come to. -/
theorem takeTurns_of_keeps (sound : work.IsSound) (keeps : work.Keeps) (turns : List Nat)
    (stages : List τ) (surroundings : σ) :
    (work.takeTurns turns stages surroundings).2 = surroundings ∧
      work.prospects (work.takeTurns turns stages surroundings).1 surroundings =
        work.prospects stages surroundings := by
  induction turns generalizing stages with
  | nil => exact ⟨rfl, rfl⟩
  | cons position later inductionHypothesis =>
      obtain ⟨unchanged, same⟩ := turn_of_keeps sound keeps position stages surroundings
      have laterTurns := inductionHypothesis (work.turn position stages surroundings).1
      simp only [takeTurns, unchanged]
      exact ⟨laterTurns.1, laterTurns.2.trans same⟩

theorem finishAll_of_keeps (keeps : work.Keeps) (stages : List τ) (surroundings : σ) :
    work.finishAll stages surroundings =
      .ok ((work.prospects stages surroundings).map Future.ofResult) surroundings := by
  induction stages with
  | nil => rfl
  | cons stage rest inductionHypothesis =>
      have unchanged : (work.finish stage).after surroundings = surroundings :=
        keeps.finish stage surroundings
      simp only [finishAll, Action.bind_apply, Action.attempt_apply, unchanged,
        inductionHypothesis, Action.pure_apply, prospects, List.map_cons]

/-- Whatever the turns are, what each task gives alone is collected. -/
theorem runInTurns_of_keeps (sound : work.IsSound) (keeps : work.Keeps) (turns : List Nat)
    (stages : List τ) (surroundings : σ) :
    work.runInTurns turns stages surroundings =
      (Action.ofExcept (Future.collect
        ((work.prospects stages surroundings).map Future.ofResult)) : Action σ (List β))
          surroundings := by
  obtain ⟨unchanged, same⟩ := takeTurns_of_keeps sound keeps turns stages surroundings
  simp only [runInTurns, Action.bind_apply, Action.step, unchanged,
    finishAll_of_keeps keeps, same]

theorem Keeps.runInTurns (sound : work.IsSound) (keeps : work.Keeps) (turns : List Nat)
    (stages : List τ) : (work.runInTurns turns stages).Keeps := by
  intro surroundings
  unfold Action.after
  rw [runInTurns_of_keeps sound keeps]
  exact Action.keeps_ofExcept _ surroundings

end Work

end RandomSearch
