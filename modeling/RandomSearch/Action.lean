import RandomSearch.Fault

/-!
# Actions

Code supplied by the caller may change its surroundings and may fail.  What it had changed before it
failed stays changed.
-/

namespace RandomSearch

/-- A step that may change its surroundings and may fail. -/
abbrev Action (σ α : Type) :=
  EStateM Fault σ α

namespace Action

variable {σ γ α : Type}

def ofExcept : Except Fault α → Action σ α
  | .ok result => pure result
  | .error fault => throw fault

/-- Run an action to its end, whether it fails or not. -/
def attempt (action : Action σ α) : Action σ (Except Fault α) := fun surroundings =>
  match action surroundings with
  | .ok result after => .ok (.ok result) after
  | .error fault after => .ok (.error fault) after

/-- Run an action that knows only a part of the surroundings. -/
def onSecond (action : Action σ α) : Action (γ × σ) α := fun (first, second) =>
  match action second with
  | .ok result after => .ok result (first, after)
  | .error fault after => .error fault (first, after)

/-- Run an action beside a first part of its own, which is given up at the end. -/
def withFirst (first : γ) (action : Action (γ × σ) α) : Action σ α := fun second =>
  match action (first, second) with
  | .ok result (_, after) => .ok result after
  | .error fault (_, after) => .error fault after

/-- Run an action that knows only the first part of the surroundings. -/
def onFirst (action : Action γ α) : Action (γ × σ) α := fun (first, second) =>
  match action first with
  | .ok result after => .ok result (after, second)
  | .error fault after => .error fault (after, second)

def step (change : σ → α × σ) : Action σ α := fun surroundings =>
  let changed := change surroundings
  .ok changed.1 changed.2

/-- Name the phase and the worker in which an action failed.  A demand for the whole program to stop
passes unchanged. -/
def inPhase (phase : Phase) (worker : Option Int) (action : Action σ α) : Action σ α :=
  fun surroundings =>
    match action surroundings with
    | .ok result after => .ok result after
    | .error fault after =>
        .error
          (if fault.isInterrupt then fault else .phaseFailed (.phase phase) worker (some fault))
          after

/-- Repeat an action, and add its results to those of earlier rounds, which are listed backwards. -/
def repeatFrom (action : Action σ α) : Nat → List α → Action σ (List α)
  | 0, earlier => pure earlier.reverse
  | rounds + 1, earlier => do
      let result ← action
      action.repeatFrom rounds (result :: earlier)

def repeated (action : Action σ α) (rounds : Nat) : Action σ (List α) :=
  action.repeatFrom rounds []

/-- Do an action on every item of a list, and add its results to those of earlier items, which are
listed backwards. -/
def eachFrom {β : Type} (action : β → Action σ α) : List β → List α → Action σ (List α)
  | [], earlier => pure earlier.reverse
  | item :: rest, earlier => do
      let result ← action item
      eachFrom action rest (result :: earlier)

def each {β : Type} (action : β → Action σ α) (items : List β) : Action σ (List α) :=
  eachFrom action items []

@[simp]
theorem ofExcept_ok (result : α) : (ofExcept (.ok result) : Action σ α) = pure result :=
  rfl

@[simp]
theorem inPhase_pure (phase : Phase) (worker : Option Int) (result : α) :
    inPhase phase worker (pure result : Action σ α) = pure result :=
  rfl

end Action

end RandomSearch
