import RandomSearch.Parallel.Turns
import RandomSearch.Sampler

/-!
# Passes in steps

A worker that is one of several goes through its pass in steps: it draws one candidate, or asks one
constraint about one candidate, or has its batch selected from.  Between two of these other workers
can be at work.
-/

namespace RandomSearch

/-- How far a worker has come with its pass.  Whatever it has gathered so far is listed
backwards. -/
inductive Stage (α : Type) where
  /-- So many candidates are still to be drawn. -/
  | drawing (left : Nat) (generator : Generator) (drawn : List α)
  /-- These candidates are still to be validated. -/
  | validating (waiting : List α) (validated : List (Validated α))
  /-- One constraint after the other is asked about a candidate. -/
  | judging (candidate : α) (verdicts : List Bool) (waiting : List α)
      (validated : List (Validated α))
  /-- The best candidate of the batch is still to be selected. -/
  | selecting (batch : List (Validated α))
  | ended (result : Except Fault (Outcome α))

namespace Stage

variable {σ α β : Type}

/-- The stage after a step of the caller's code, and the surroundings that the step leaves. -/
def after (next : β → Stage α) (action : Action σ β) (surroundings : σ) : Stage α × σ :=
  match action surroundings with
  | .ok result after => (next result, after)
  | .error fault after => (.ended (.error fault), after)

def start (samples : Value) (seed : SeedSequence) : Stage α :=
  match samples.toCount "batch size" with
  | .ok count => .drawing count (Generator.ofSequence seed) []
  | .error fault => .ended (.error fault)

end Stage

namespace Sampler

variable {σ α : Type}

/-! ## Steps -/

def outcomeOf (worker : Option Int) (keep : Bool) (batch : List (Validated α))
    (best : Option (Validated α)) : Outcome α :=
  ⟨worker, best, if keep then batch else []⟩

def advance (sampler : Sampler σ α) (worker : Option Int) (keep : Bool) :
    Stage α → σ → Stage α × σ
  | .drawing 0 _ drawn, surroundings => (.validating drawn.reverse [], surroundings)
  | .drawing (left + 1) generator drawn, surroundings =>
      match sampler.problem.draw.inPhase .generating worker (generator, surroundings) with
      | .ok candidate (moved, after) => (.drawing left moved (candidate :: drawn), after)
      | .error fault (_, after) => (.ended (.error fault), after)
  | .validating [] validated, surroundings => (.selecting validated.reverse, surroundings)
  | .validating (candidate :: waiting) validated, surroundings =>
      (.judging candidate [] waiting validated, surroundings)
  | .judging candidate verdicts waiting validated, surroundings =>
      match sampler.constraints[verdicts.length]? with
      | none =>
          (.validating waiting (⟨candidate, verdicts.reverse.map .bool⟩ :: validated), surroundings)
      | some constraint =>
          Stage.after (fun verdict => .judging candidate (verdict :: verdicts) waiting validated)
            ((constraint.verdict candidate).inPhase .validating worker) surroundings
  | .selecting batch, surroundings =>
      Stage.after (fun best => .ended (.ok (outcomeOf worker keep batch best)))
        (sampler.best (batch.map some) worker) surroundings
  | .ended result, surroundings => (.ended result, surroundings)

/-! ## What is left of a pass -/

def finishBatch (sampler : Sampler σ α) (worker : Option Int) (keep : Bool)
    (batch : List (Validated α)) : Action σ (Outcome α) := do
  let best ← sampler.best (batch.map some) worker
  return outcomeOf worker keep batch best

/-- Validate the candidates that wait, and select from all. -/
def finishWaiting (sampler : Sampler σ α) (worker : Option Int) (keep : Bool) (waiting : List α)
    (validated : List (Validated α)) : Action σ (Outcome α) := do
  let batch ← (Action.eachFrom (Constraint.validate sampler.constraints) waiting validated).inPhase
    .validating worker
  sampler.finishBatch worker keep batch

/-- Ask the constraints about a candidate that have not been asked yet, and go on from there. -/
def finishJudging (sampler : Sampler σ α) (worker : Option Int) (keep : Bool) (candidate : α)
    (verdicts : List Bool) (waiting : List α) (validated : List (Validated α)) :
    Action σ (Outcome α) := do
  let unasked := sampler.constraints.drop verdicts.length
  let others ← (Constraint.verdicts candidate unasked).inPhase .validating worker
  let judged : Validated α := ⟨candidate, (verdicts.reverse ++ others).map .bool⟩
  sampler.finishWaiting worker keep waiting (judged :: validated)

def finish (sampler : Sampler σ α) (worker : Option Int) (keep : Bool) :
    Stage α → Action σ (Outcome α)
  | .drawing left generator drawn => do
      let candidates ← Action.withFirst generator
        ((sampler.problem.draw.repeatFrom left drawn).inPhase .generating worker)
      sampler.finishWaiting worker keep candidates []
  | .validating waiting validated => sampler.finishWaiting worker keep waiting validated
  | .judging candidate verdicts waiting validated =>
      sampler.finishJudging worker keep candidate verdicts waiting validated
  | .selecting batch => sampler.finishBatch worker keep batch
  | .ended result => Action.ofExcept result

/-- The passes of several workers as work done in steps, where each worker is given by its number
and how far it has come. -/
def passWork (sampler : Sampler σ α) (keep : Bool) : Work σ (Nat × Stage α) (Outcome α) where
  advance task surroundings :=
    let moved := sampler.advance (some task.1) keep task.2 surroundings
    ((task.1, moved.1), moved.2)
  finish task := sampler.finish (some task.1) keep task.2

end Sampler

end RandomSearch
