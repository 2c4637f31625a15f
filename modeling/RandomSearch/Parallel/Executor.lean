import RandomSearch.Parallel.Future

/-!
# Executors

An executor decides for every task submitted to it whether and when the task runs.  Tasks are
submitted in order.  If one is refused, those submitted before it are cancelled as far as they have
not run, and the refusal is the fault of the whole.
-/

namespace RandomSearch

/-- What an executor does with a submitted task. -/
inductive Handling where
  | runs
  /-- The task is cancelled before it runs. -/
  | cancels
  /-- The task is given up with a fault, and never runs. -/
  | loses (fault : Fault)
  /-- The task waits until all tasks are submitted. -/
  | delays
  | refuses (fault : Fault)

/-- What an executor does with each task, by its position. -/
abbrev Executor :=
  Nat → Handling

namespace Executor

def threads : Executor :=
  fun _ => .runs

def closed : Executor :=
  fun _ => .refuses .executorClosed

/-- What has come of submitting tasks: their futures, and the fault of the first that was refused,
if any. -/
structure Submission (β : Type) where
  futures : List (Future β)
  refusal : Option Fault

variable {σ ι β : Type}

def submitFrom (executor : Executor) (task : Nat → ι → Action σ β) (position : Nat) :
    List ι → Action σ (Submission β)
  | [] => pure ⟨[], none⟩
  | item :: rest =>
      let proceed (future : Future β) : Action σ (Submission β) := do
        let submission ← submitFrom executor task (position + 1) rest
        return { submission with futures := future :: submission.futures }
      match executor position with
      | .runs => do
          let result ← (task position item).attempt
          proceed (.ofResult result)
      | .cancels => proceed .cancelled
      | .loses fault => proceed (.failed fault)
      | .delays => proceed .waiting
      | .refuses fault => pure ⟨[], some fault⟩

def finish (task : Action σ β) : Future β → Action σ (Future β)
  | .waiting => do
      let result ← task.attempt
      return .ofResult result
  | future => pure future

def finishFrom (task : Nat → ι → Action σ β) (position : Nat) :
    List ι → List (Future β) → Action σ (List (Future β))
  | item :: items, future :: futures => do
      let settled ← finish (task position item) future
      let others ← finishFrom task (position + 1) items futures
      return settled :: others
  | _, _ => pure []

/-- Submit tasks, wait for all of them, and collect their results. -/
def runAll (executor : Executor) (task : Nat → ι → Action σ β) (items : List ι) :
    Action σ (List β) := do
  let submission ← executor.submitFrom task 0 items
  match submission.refusal with
  | some fault => throw fault
  | none => do
      let futures ← finishFrom task 0 items submission.futures
      Action.ofExcept (Future.collect futures)

end Executor

end RandomSearch
