import RandomSearch.Proofs.Parallel
import RandomSearch.Sampler.Dispatch

/-!
# A pass and its steps

The steps of a pass make up the pass: whatever step a worker takes, what it will have come to stays
the same.  A worker that is one of several does what a sequential search does, but for its number in
what it shows and in its faults.
-/

namespace RandomSearch

namespace Sampler

variable {σ α β : Type}

/-! ## Steps make up a pass -/

/-- A pass in one expression: once candidates are drawn, the stream plays no part any more. -/
theorem pass_eq (sampler : Sampler σ α) (count : Value) (worker : Option Int) (keep : Bool) :
    sampler.pass count worker keep =
      sampler.draw count worker >>= fun candidates =>
        Action.onSecond (sampler.finishWaiting worker keep candidates []) := by
  unfold pass finishWaiting finishBatch
  congr 1
  funext candidates
  simp only [Action.onSecond_bind, Action.onSecond_pure]
  rfl

/-- A worker that starts has its whole task before it. -/
theorem finish_start (sampler : Sampler σ α) (samples : Value) (keep : Bool) (worker : Nat)
    (seed : SeedSequence) :
    sampler.finish (some worker) keep (.start samples seed) =
      sampler.workerTask samples keep worker seed := by
  unfold workerTask
  rw [pass_eq, Action.withFirst_bind_onSecond]
  unfold Stage.start draw
  cases samples.toCount "batch size" with
  | ok count => rfl
  | error fault => rfl

/-- What is left of the judgement of a candidate, seen from its start. -/
theorem finishWaiting_cons (sampler : Sampler σ α) (worker : Option Int) (keep : Bool)
    (candidate : α) (waiting : List α) (validated : List (Validated α)) :
    sampler.finishWaiting worker keep (candidate :: waiting) validated =
      sampler.finishJudging worker keep candidate [] waiting validated := by
  simp only [finishWaiting, finishJudging, Action.eachFrom, Constraint.validate,
    Action.inPhase_bind, bind_assoc, pure_bind, List.length_nil,
    List.drop_zero, List.reverse_nil, List.nil_append]

/-- The same after the next constraint has been asked. -/
theorem finishJudging_of_getElem? (sampler : Sampler σ α) (worker : Option Int) (keep : Bool)
    (candidate : α) {verdicts : List Bool} {constraint : Constraint σ α}
    (next : sampler.constraints[verdicts.length]? = some constraint) (waiting : List α)
    (validated : List (Validated α)) :
    sampler.finishJudging worker keep candidate verdicts waiting validated =
      (constraint.verdict candidate).inPhase .validating worker >>= fun verdict =>
        sampler.finishJudging worker keep candidate (verdict :: verdicts) waiting validated := by
  obtain ⟨inside, found⟩ := List.getElem?_eq_some_iff.mp next
  unfold finishJudging
  rw [List.drop_eq_getElem_cons inside, found]
  simp only [Constraint.verdicts, Action.inPhase_bind, Action.inPhase_pure, bind_assoc, pure_bind,
    List.length_cons, List.reverse_cons, List.append_assoc, List.singleton_append]

/-- The same after all constraints have been asked. -/
theorem finishJudging_of_getElem?_none (sampler : Sampler σ α) (worker : Option Int) (keep : Bool)
    (candidate : α) {verdicts : List Bool}
    (none : sampler.constraints[verdicts.length]? = none) (waiting : List α)
    (validated : List (Validated α)) :
    sampler.finishJudging worker keep candidate verdicts waiting validated =
      sampler.finishWaiting worker keep waiting
        (⟨candidate, verdicts.reverse.map .bool⟩ :: validated) := by
  unfold finishJudging
  rw [List.drop_eq_nil_of_le (List.getElem?_eq_none_iff.mp none)]
  simp only [Constraint.verdicts, Action.inPhase_pure, pure_bind, List.append_nil]

/-- Taking a step first makes no difference to what a pass comes to. -/
theorem finish_advance (sampler : Sampler σ α) (worker : Option Int) (keep : Bool)
    (stage : Stage α) (surroundings : σ) :
    sampler.finish worker keep (sampler.advance worker keep stage surroundings).1
        (sampler.advance worker keep stage surroundings).2 =
      sampler.finish worker keep stage surroundings := by
  -- The cases are the steps: each does exactly the first part of what is left.
  cases stage with
  | drawing left generator drawn =>
      cases left with
      | zero => rfl
      | succ left =>
          simp only [finish, advance, Action.repeatFrom, Action.inPhase_bind]
          rw [Action.bind_apply, Action.withFirst_bind_apply]
          cases sampler.problem.draw.inPhase .generating worker (generator, surroundings) with
          | ok candidate last =>
              obtain ⟨moved, middle⟩ := last
              exact Action.bind_apply _ _ _
          | error fault last => rfl
  | validating waiting validated =>
      cases waiting with
      | nil => rfl
      | cons candidate waiting =>
          simp only [advance, finish, finishWaiting_cons]
  | judging candidate verdicts waiting validated =>
      simp only [advance, finish]
      cases next : sampler.constraints[verdicts.length]? with
      | none =>
          rw [finishJudging_of_getElem?_none sampler worker keep candidate next]
      | some constraint =>
          rw [finishJudging_of_getElem? sampler worker keep candidate next, Action.bind_apply]
          simp only [Stage.after]
          cases (constraint.verdict candidate).inPhase .validating worker surroundings with
          | ok verdict last => rfl
          | error fault last => rfl
  | selecting batch =>
      simp only [advance, finish, finishBatch, Stage.after, Action.bind_apply]
      cases sampler.best (batch.map some) worker surroundings with
      | ok best last => rfl
      | error fault last => rfl
  | ended result => rfl

/-! ## Code that leaves no traces -/

/-- Neither a draw nor a question nor a selection changes the surroundings.  A draw changes the
stream that it is given, and nothing else. -/
structure IsPure (sampler : Sampler σ α) : Prop where
  draw : sampler.problem.draw.KeepsSecond
  predicate : ∀ constraint ∈ sampler.constraints, ∀ candidate,
    (constraint.predicate candidate).Keeps
  select : ∀ batch, (sampler.problem.select batch).Keeps

theorem keeps_verdict {constraint : Constraint σ α} {candidate : α}
    (keeps : (constraint.predicate candidate).Keeps) : (constraint.verdict candidate).Keeps := by
  intro surroundings
  unfold Action.after Constraint.verdict
  cases ran : constraint.predicate candidate surroundings with
  | ok value last => exact keeps.eq_of_eq_ok ran
  | error fault last => exact keeps.eq_of_eq_error ran

theorem keeps_verdicts {constraints : List (Constraint σ α)} {candidate : α}
    (keeps : ∀ constraint ∈ constraints, (constraint.predicate candidate).Keeps) :
    (Constraint.verdicts candidate constraints).Keeps := by
  induction constraints with
  | nil => exact Action.keeps_pure []
  | cons constraint rest inductionHypothesis =>
      have restKeeps := inductionHypothesis fun other present =>
        keeps other (List.mem_cons_of_mem constraint present)
      refine (keeps_verdict (keeps constraint List.mem_cons_self)).bind fun verdict => ?_
      exact restKeeps.bind fun others => Action.keeps_pure (verdict :: others)

namespace IsPure

variable {sampler : Sampler σ α}

theorem best (pure : sampler.IsPure) (batch : List (Option (Validated α)))
    (worker : Option Int) : (sampler.best batch worker).Keeps := by
  unfold Sampler.best
  split
  · exact Action.keeps_pure none
  · exact (pure.select batch).inPhase .selecting worker

theorem finishBatch (pure : sampler.IsPure) (worker : Option Int) (keep : Bool)
    (batch : List (Validated α)) : (sampler.finishBatch worker keep batch).Keeps :=
  (pure.best (batch.map some) worker).bind fun best =>
    Action.keeps_pure (outcomeOf worker keep batch best)

theorem validates (pure : sampler.IsPure) (candidate : α) :
    (Constraint.validate sampler.constraints candidate).Keeps := by
  have asked : (Constraint.verdicts candidate sampler.constraints).Keeps :=
    keeps_verdicts fun constraint member => pure.predicate constraint member candidate
  exact asked.bind fun verdicts => Action.keeps_pure (Validated.mk candidate (verdicts.map .bool))

theorem finishWaiting (pure : sampler.IsPure) (worker : Option Int) (keep : Bool)
    (waiting : List α) (validated : List (Validated α)) :
    (sampler.finishWaiting worker keep waiting validated).Keeps :=
  ((Action.Keeps.eachFrom pure.validates waiting validated).inPhase .validating worker).bind
    fun batch => pure.finishBatch worker keep batch

theorem draws (pure : sampler.IsPure) (count : Value) (worker : Option Int) :
    (sampler.draw count worker).KeepsSecond := by
  apply (Action.keeps_ofExcept _).keepsSecond.bind
  intro rounds
  exact (pure.draw.repeatFrom rounds []).inPhase .generating worker

theorem pass (pure : sampler.IsPure) (count : Value) (worker : Option Int) (keep : Bool) :
    (sampler.pass count worker keep).KeepsSecond := by
  rw [pass_eq]
  apply (pure.draws count worker).bind
  intro candidates
  exact (pure.finishWaiting worker keep candidates []).onSecond

theorem finish (pure : sampler.IsPure) (worker : Option Int) (keep : Bool) (stage : Stage α) :
    (sampler.finish worker keep stage).Keeps := by
  cases stage with
  | drawing left generator drawn =>
      have draws := (pure.draw.repeatFrom left drawn).inPhase .generating worker
      exact (draws.withFirst generator).bind fun candidates =>
        pure.finishWaiting worker keep candidates []
  | validating waiting validated => exact pure.finishWaiting worker keep waiting validated
  | judging candidate verdicts waiting validated =>
      have asked :
          (Constraint.verdicts candidate (sampler.constraints.drop verdicts.length)).Keeps :=
        keeps_verdicts fun constraint member =>
          pure.predicate constraint (List.mem_of_mem_drop member) candidate
      exact (asked.inPhase .validating worker).bind fun others =>
        pure.finishWaiting worker keep waiting _
  | selecting batch => exact pure.finishBatch worker keep batch
  | ended result => exact Action.keeps_ofExcept result

theorem after (next : β → Stage α) {action : Action σ β} (keeps : action.Keeps)
    (surroundings : σ) : (Stage.after next action surroundings).2 = surroundings := by
  unfold Stage.after
  cases ran : action surroundings with
  | ok result last => exact keeps.eq_of_eq_ok ran
  | error fault last => exact keeps.eq_of_eq_error ran

theorem advance (pure : sampler.IsPure) (worker : Option Int) (keep : Bool) (stage : Stage α)
    (surroundings : σ) : (sampler.advance worker keep stage surroundings).2 = surroundings := by
  cases stage with
  | drawing left generator drawn =>
      cases left with
      | zero => rfl
      | succ left =>
          have same := (pure.draw.inPhase .generating worker) generator surroundings
          unfold Action.after at same
          simp only [Sampler.advance]
          cases ran : sampler.problem.draw.inPhase .generating worker (generator, surroundings) with
          | ok candidate last =>
              rw [ran] at same
              exact same
          | error fault last =>
              rw [ran] at same
              exact same
  | validating waiting validated =>
      cases waiting with
      | nil => rfl
      | cons candidate waiting => rfl
  | judging candidate verdicts waiting validated =>
      simp only [Sampler.advance]
      cases next : sampler.constraints[verdicts.length]? with
      | none => rfl
      | some constraint =>
          have asked := keeps_verdict
            (pure.predicate constraint (List.mem_of_getElem? next) candidate)
          exact after _ (asked.inPhase .validating worker) surroundings
  | selecting batch => exact after _ (pure.best (batch.map some) worker) surroundings
  | ended result => rfl

end IsPure

/-! ## Carrying out all passes -/

theorem isSound_passWork (sampler : Sampler σ α) (keep : Bool) :
    (sampler.passWork keep).IsSound :=
  fun task surroundings => sampler.finish_advance (some task.1) keep task.2 surroundings

theorem IsPure.passWork {sampler : Sampler σ α} (pure : sampler.IsPure) (keep : Bool) :
    (sampler.passWork keep).Keeps where
  advance task surroundings := pure.advance (some task.1) keep task.2 surroundings
  finish task := pure.finish (some task.1) keep task.2

theorem IsPure.workerTask {sampler : Sampler σ α} (pure : sampler.IsPure) (samples : Value)
    (keep : Bool) (worker : Nat) (seed : SeedSequence) :
    (sampler.workerTask samples keep worker seed).Keeps := by
  rw [← finish_start]
  exact pure.finish (some worker) keep (.start samples seed)

/-- However the tasks of the workers are carried out, and whatever becomes of them, the surroundings
stay as they are. -/
theorem IsPure.carryOut {sampler : Sampler σ α} (pure : sampler.IsPure) (dispatch : Dispatch)
    (samples : Value) (keep : Bool) (seeds : List SeedSequence) :
    (sampler.carryOut dispatch samples keep seeds).Keeps := by
  cases dispatch with
  | whole executor => exact executor.keeps_runAll (pure.workerTask samples keep) seeds
  | inTurns turns =>
      exact (pure.passWork keep).runInTurns (sampler.isSound_passWork keep) turns _

/-- However the tasks of the workers are carried out, as long as all run, what is collected is what
each of them gives alone. -/
theorem carryOut_of_isPure {sampler : Sampler σ α} (pure : sampler.IsPure) {dispatch : Dispatch}
    (samples : Value) (keep : Bool) {seeds : List SeedSequence}
    (runs : dispatch.RunsAll seeds.length) (surroundings : σ) :
    sampler.carryOut dispatch samples keep seeds surroundings =
      (Action.ofExcept (Future.collect
        ((Executor.alone (sampler.workerTask samples keep) surroundings seeds 0).map
          Future.ofResult)) : Action σ (List (Outcome α))) surroundings := by
  cases dispatch with
  | whole executor =>
      exact Executor.runAll_of_keeps (pure.workerTask samples keep) runs surroundings
  | inTurns turns =>
      have ran := Work.runInTurns_of_keeps (sampler.isSound_passWork keep) (pure.passWork keep)
        turns (seeds.zipIdx.map fun place => (place.2, .start samples place.1)) surroundings
      have same : (sampler.passWork keep).prospects
          (seeds.zipIdx.map fun place => (place.2, .start samples place.1)) surroundings =
            Executor.alone (sampler.workerTask samples keep) surroundings seeds 0 := by
        simp only [Work.prospects, Executor.alone, ← finish_start, List.map_map]
        rfl
      rw [same] at ran
      exact ran

end Sampler

/-! ## Workers and sequential searches -/

/-- What a worker shows where a sequential search has come to the given outcome. -/
def Outcome.forWorker {α : Type} (worker : Int) (keep : Bool) (outcome : Outcome α) : Outcome α :=
  ⟨some worker, outcome.best, if keep then outcome.batch else []⟩

namespace Sampler

variable {σ α : Type}

theorem draw_asWorker (sampler : Sampler σ α) (samples : Value) (worker : Int) :
    sampler.draw samples (some worker) = Action.asWorker worker (sampler.draw samples none) := by
  unfold draw
  rw [Action.asWorker_bind]
  have counts : Action.asWorker worker (Action.ofExcept (samples.toCount "batch size")) =
      (Action.ofExcept (samples.toCount "batch size") : Action (Generator × σ) Nat) := by
    unfold Value.toCount
    split
    · rfl
    · funext surroundings
      exact congrArg (EStateM.Result.error · surroundings) (Fault.inWorker_refusal worker _)
    · funext surroundings
      exact congrArg (EStateM.Result.error · surroundings) (Fault.inWorker_refusal worker _)
  simp only [counts, Action.asWorker_inPhase]

theorem best_asWorker (sampler : Sampler σ α) (batch : List (Option (Validated α)))
    (worker : Int) :
    sampler.best batch (some worker) = Action.asWorker worker (sampler.best batch none) := by
  unfold best
  split
  · rfl
  · exact (Action.asWorker_inPhase worker .selecting (sampler.problem.select batch)).symm

theorem finishWaiting_asWorker (sampler : Sampler σ α) (worker : Int) (keep : Bool)
    (waiting : List α) (validated : List (Validated α)) :
    sampler.finishWaiting (some worker) keep waiting validated =
      Action.asWorker worker (sampler.finishWaiting none true waiting validated >>= fun outcome =>
        pure (outcome.forWorker worker keep)) := by
  simp only [finishWaiting, finishBatch, bind_assoc, pure_bind, Action.asWorker_bind,
    Action.asWorker_inPhase, Action.asWorker_pure, ← best_asWorker]
  rfl

/-- A worker does what a sequential search does, but for its number. -/
theorem pass_asWorker (sampler : Sampler σ α) (samples : Value) (worker : Int) (keep : Bool) :
    sampler.pass samples (some worker) keep =
      Action.asWorker worker (sampler.pass samples none true >>= fun outcome =>
        pure (outcome.forWorker worker keep)) := by
  simp only [pass_eq, finishWaiting_asWorker, draw_asWorker, bind_assoc, Action.asWorker_bind,
    Action.asWorker_onSecond, Action.onSecond_bind, Action.onSecond_pure, Action.asWorker_pure]

end Sampler

end RandomSearch
