import RandomSearch.Sampler.Stage

/-!
# Ways to carry out a parallel search

The tasks of the workers are either handed to an executor, which runs each of them at one go if it
runs it at all, or they run at the same time, step by step.  Nothing is said about how many threads
there are: a search on few threads is one in which few tasks take turns at a time.
-/

namespace RandomSearch

/-- How the tasks of workers are carried out. -/
inductive Dispatch where
  /-- An executor decides about every task. -/
  | whole (executor : Executor)
  /-- All tasks run at the same time, and take their steps in these turns. -/
  | inTurns (turns : List Nat)

/-- Every one of the given number of tasks runs. -/
def Dispatch.RunsAll (count : Nat) : Dispatch → Prop
  | .whole executor => ∀ position < count, executor position = .runs ∨ executor position = .delays
  | .inTurns _ => True

namespace Sampler

variable {σ α : Type}

def carryOut (sampler : Sampler σ α) (dispatch : Dispatch) (samples : Value) (keep : Bool)
    (seeds : List SeedSequence) : Action σ (List (Outcome α)) :=
  match dispatch with
  | .whole executor => executor.runAll (sampler.workerTask samples keep) seeds
  | .inTurns turns =>
      (sampler.passWork keep).runInTurns turns
        (seeds.zipIdx.map fun (seed, worker) => (worker, Stage.start samples seed))

/-- Search with several workers, whose tasks are carried out in one of the ways there are. -/
def searchParallelOn (sampler : Sampler σ α) (samples workers threads : Value)
    (dispatch : Dispatch) : Action (Session σ α) (Option (Validated α)) :=
  sampler.searchParallelBy samples workers threads (sampler.carryOut dispatch samples)

/-- A search on an executor is one of those ways. -/
theorem searchParallelOn_whole (sampler : Sampler σ α) (samples workers threads : Value)
    (executor : Executor) :
    sampler.searchParallelOn samples workers threads (.whole executor) =
      sampler.searchParallel samples workers threads executor :=
  rfl

end Sampler

end RandomSearch
