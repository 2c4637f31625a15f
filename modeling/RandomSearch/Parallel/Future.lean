import RandomSearch.Action
import RandomSearch.Entries

/-!
# Futures

A submitted task waits, or has returned a result, or has failed, or has been cancelled before it
ran.  Once all are settled, either every one of them has returned and the results are taken in
order, or the failures are reported together, each with the position of its task.
-/

namespace RandomSearch

/-- What is known of a submitted task. -/
inductive Future (β : Type) where
  | waiting
  | returned (result : β)
  | failed (fault : Fault)
  | cancelled

namespace Future

variable {β : Type}

def isSettled : Future β → Bool
  | .waiting => false
  | _ => true

def ofResult : Except Fault β → Future β
  | .ok result => .returned result
  | .error fault => .failed fault

def failure? (position : Nat) : Future β → Option Fault
  | .failed fault => some fault
  | .cancelled => some (.cancelledBeforeRun position)
  | _ => none

/-- The failures of tasks from some position on, each with the position of the task. -/
def failuresFrom (position : Nat) : List (Future β) → List (Int × Fault)
  | [] => []
  | future :: rest =>
      match future.failure? position with
      | some fault => (position, fault) :: failuresFrom (position + 1) rest
      | none => failuresFrom (position + 1) rest

def results : List (Future β) → List β
  | [] => []
  | .returned result :: rest => result :: results rest
  | _ :: rest => results rest

@[simp]
theorem isSettled_ofResult (result : Except Fault β) : (ofResult result).isSettled = true := by
  cases result <;> rfl

end Future

/-! ## Failures of several workers -/

/-- The fault of several failed workers.  They are reported in the order of their numbers, and of
several failures of one worker the last counts. -/
def Fault.ofFailures (failures : List (Int × Fault)) (cause : Option Fault) : Fault :=
  .workersFailed ((Entries.ofList failures).mergeSort fun left right => left.1 ≤ right.1) cause

/-- The results of settled tasks, or the failures of all that failed.  The first failure is the
cause of the whole. -/
def Future.collect {β : Type} (futures : List (Future β)) : Except Fault (List β) :=
  match Future.failuresFrom 0 futures with
  | [] => .ok (Future.results futures)
  | first :: others => .error (.ofFailures (first :: others) (some first.2))

end RandomSearch
