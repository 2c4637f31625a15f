import RandomSearch.Sampler

/-!
# Calls of the caller's code

A sampler can be made to note every call of the caller's code, whether it returns or fails, in the
order of the calls.  Its passes then tell which calls they make.
-/

namespace RandomSearch

inductive Call (α : Type) where
  | draw
  | ask (position : Nat) (candidate : α)
  | select (batch : List (Option (Validated α)))

/-- Note a call, which is made by an action, at the end of a list of calls. -/
def Action.noting {σ κ α : Type} (call : κ) (action : Action σ α) : Action (List κ × σ) α :=
  fun (calls, surroundings) => action.onSecond (calls ++ [call], surroundings)

namespace Sampler

variable {σ α : Type}

def recordedConstraint (constraint : Constraint σ α) (position : Nat) :
    Constraint (List (Call α) × σ) α :=
  { name := constraint.name
    predicate := fun candidate =>
      (constraint.predicate candidate).noting (.ask position candidate) }

/-- The sampler that notes all calls of the caller's code. -/
def recorded (sampler : Sampler σ α) : Sampler (List (Call α) × σ) α where
  problem :=
    { draw := fun (generator, calls, surroundings) =>
        match sampler.problem.draw (generator, surroundings) with
        | .ok candidate (moved, after) => .ok candidate (moved, calls ++ [.draw], after)
        | .error fault (moved, after) => .error fault (moved, calls ++ [.draw], after)
      select := fun batch => (sampler.problem.select batch).noting (.select batch) }
  constraints := sampler.constraints.zipIdx.map fun (constraint, position) =>
    recordedConstraint constraint position

/-- The calls of the caller's code that a pass makes, in order. -/
def passCalls (sampler : Sampler σ α) (count : Value) (worker : Option Int) (keep : Bool)
    (generator : Generator) (surroundings : σ) : List (Call α) :=
  match sampler.recorded.pass count worker keep (generator, [], surroundings) with
  | .ok _ (_, calls, _) => calls
  | .error _ (_, calls, _) => calls

end Sampler

end RandomSearch
