import RandomSearch.Parallel.Future

/-!
# Taking turns

Tasks that run at the same time share their surroundings and take their steps one after the other,
in an order nobody has promised.  A list of positions says whose turn it is.  What such turns leave
undone is finished task by task, so that every list of turns leads to an end, and every order in
which all steps can be taken is one of those lists.
-/

namespace RandomSearch

/-- Work that is done in steps, where `τ` tells how far a task has come: the next step of a task,
and all that is left of it at one go. -/
structure Work (σ τ β : Type) where
  advance : τ → σ → τ × σ
  finish : τ → Action σ β

namespace Work

variable {σ τ β : Type}

def turn (work : Work σ τ β) (position : Nat) (stages : List τ) (surroundings : σ) : List τ × σ :=
  match stages[position]? with
  | none => (stages, surroundings)
  | some stage =>
      let moved := work.advance stage surroundings
      (stages.set position moved.1, moved.2)

/-- Let tasks take steps, in the order of the given turns. -/
def takeTurns (work : Work σ τ β) : List Nat → List τ → σ → List τ × σ
  | [], stages, surroundings => (stages, surroundings)
  | position :: later, stages, surroundings =>
      let moved := work.turn position stages surroundings
      work.takeTurns later moved.1 moved.2

def finishAll (work : Work σ τ β) : List τ → Action σ (List (Future β))
  | [] => pure []
  | stage :: rest => do
      let result ← (work.finish stage).attempt
      let others ← work.finishAll rest
      return .ofResult result :: others

/-- Run tasks in turns, wait for all of them, and collect their results. -/
def runInTurns (work : Work σ τ β) (turns : List Nat) (stages : List τ) : Action σ (List β) := do
  let stages ← Action.step (work.takeTurns turns stages)
  let futures ← work.finishAll stages
  Action.ofExcept (Future.collect futures)

end Work

end RandomSearch
