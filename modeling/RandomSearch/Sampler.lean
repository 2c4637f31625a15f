import RandomSearch.Parallel.Executor
import RandomSearch.Problem
import RandomSearch.Random.Seed

/-!
# Searching by sampling

One pass of a sampler draws a batch of candidates, validates each of them and selects the best.  A
parallel search has several workers, each with a stream and a pass of its own; the winners are
reduced once more in the order of the workers.  The sampler itself never changes: what changes is
the session, that is the seed, the caller's stream, the caller's history and the surroundings of the
caller's code.
-/

namespace RandomSearch

/-! ## Counts -/

def Value.toCount (label : String) : Value → Except Fault Nat
  | .int (.ofNat count) => .ok count
  | .int (.negSucc n) => .error (.refusal (.negativeCount label (.int (.negSucc n))))
  | value => .error (.refusal (.notACount label value))

/-- Check the number of threads, if one is given: it must be more than zero. -/
def checkThreads : Value → Except Fault Unit
  | .null => .ok ()
  | threads => do
      if ← threads.compare .le (.int 0) then
        .error (.refusal (.noThreads threads))
      else
        .ok ()

/-! ## Passes -/

/-- What a pass has to show: its worker, its winner, and its batch if that is kept. -/
structure Outcome (α : Type) where
  worker : Option Int
  best : Option (Validated α)
  batch : List (Validated α)

structure Sampler (σ α : Type) where
  problem : Problem σ α
  constraints : List (Constraint σ α)

/-- What changes in the course of searches: the seed, the stream of the caller's own, the history,
and the surroundings. -/
structure Session (σ α : Type) where
  seed : Seed
  stream : Option Generator
  history : Option (List (Validated α))
  surroundings : σ

namespace Session

variable {σ α β : Type}

def inside (action : Action σ β) : Action (Session σ α) β := fun session =>
  match action session.surroundings with
  | .ok result after => .ok result { session with surroundings := after }
  | .error fault after => .error fault { session with surroundings := after }

/-- Do an action with the caller's stream, or else with a new stream of the seed. -/
def streaming (action : Action (Generator × σ) β) : Action (Session σ α) β := fun session =>
  match session.stream with
  | some generator =>
      match action (generator, session.surroundings) with
      | .ok result (moved, after) =>
          .ok result { session with stream := some moved, surroundings := after }
      | .error fault (moved, after) =>
          .error fault { session with stream := some moved, surroundings := after }
  | none =>
      match session.seed.generator with
      | .error fault => .error fault session
      | .ok generator => inside (Action.withFirst generator action) session

def takeSeeds (count : Nat) : Action (Session σ α) (List SeedSequence) := fun session =>
  match session.seed.spawn count with
  | .error fault => .error fault session
  | .ok (seeds, after) => .ok seeds { session with seed := after }

def remember (batch : List (Validated α)) : Action (Session σ α) Unit := fun session =>
  .ok () { session with history := session.history.map (· ++ batch) }

def hasHistory : Action (Session σ α) Bool := fun session =>
  .ok session.history.isSome session

end Session

namespace Sampler

variable {σ α : Type}

def draw (sampler : Sampler σ α) (count : Value) (worker : Option Int) :
    Action (Generator × σ) (List α) := do
  let count ← Action.ofExcept (count.toCount "batch size")
  (sampler.problem.draw.repeated count).inPhase .generating worker

def validate (sampler : Sampler σ α) (batch : List α) (worker : Option Int) :
    Action σ (List (Validated α)) :=
  (Action.each (Constraint.validate sampler.constraints) batch).inPhase .validating worker

/-- Select the best of a batch.  The problem is not asked about an empty one. -/
def best (sampler : Sampler σ α) (batch : List (Option (Validated α))) (worker : Option Int) :
    Action σ (Option (Validated α)) :=
  if batch.isEmpty then
    pure none
  else
    (sampler.problem.select batch).inPhase .selecting worker

def pass (sampler : Sampler σ α) (count : Value) (worker : Option Int) (keep : Bool) :
    Action (Generator × σ) (Outcome α) := do
  let candidates ← sampler.draw count worker
  let validated ← Action.onSecond (sampler.validate candidates worker)
  let best ← Action.onSecond (sampler.best (validated.map some) worker)
  return ⟨worker, best, if keep then validated else []⟩

/-! ## Searches -/

/-- Search sequentially.  The batch is added to the history once the pass is over. -/
def search (sampler : Sampler σ α) (count : Value) :
    Action (Session σ α) (Option (Validated α)) := do
  let _ ← Action.ofExcept (count.toCount "batch size")
  let keep ← Session.hasHistory
  let outcome ← Session.streaming (sampler.pass count none keep)
  Session.remember outcome.batch
  return outcome.best

/-- The task of one worker: a pass with the stream of its own seed. -/
def workerTask (sampler : Sampler σ α) (samples : Value) (keep : Bool) (worker : Nat)
    (seed : SeedSequence) : Action σ (Outcome α) :=
  Action.withFirst (Generator.ofSequence seed) (sampler.pass samples (some worker) keep)

/-- Search with several workers, whose tasks are carried out in the given way, which is told whether
batches are kept.  Once all have finished, their batches are added to the history, worker by worker,
and their winners are reduced to one. -/
def searchParallelBy (sampler : Sampler σ α) (samples workers threads : Value)
    (carryOut : Bool → List SeedSequence → Action σ (List (Outcome α))) :
    Action (Session σ α) (Option (Validated α)) := do
  let _ ← Action.ofExcept (samples.toCount "samples per worker")
  let count ← Action.ofExcept (workers.toCount "worker count")
  Action.ofExcept (checkThreads threads)
  if count = 0 then
    return none
  let seeds ← Session.takeSeeds count
  let keep ← Session.hasHistory
  let outcomes ← Session.inside (carryOut keep seeds)
  Session.remember (outcomes.flatMap Outcome.batch)
  let winners := outcomes.filterMap Outcome.best
  Session.inside (sampler.best (winners.map some) none)

def searchParallel (sampler : Sampler σ α) (samples workers threads : Value) (executor : Executor) :
    Action (Session σ α) (Option (Validated α)) :=
  sampler.searchParallelBy samples workers threads fun keep seeds =>
    executor.runAll (sampler.workerTask samples keep) seeds

end Sampler

end RandomSearch
