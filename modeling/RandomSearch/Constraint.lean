import RandomSearch.Action
import RandomSearch.Value.Convert

/-!
# Constraints and validated candidates

A constraint is a named predicate.  Validating a candidate asks every constraint in order, whatever
the others said, and keeps the candidate together with the verdicts; whether it is valid is always
read off the verdicts.
-/

namespace RandomSearch

/-! ## Validated candidates -/

/-- A candidate with the verdicts of all constraints on it. -/
structure Validated (α : Type) where
  candidate : α
  verdicts : List Value

namespace Validated

variable {α : Type}

/-- Whether all verdicts are in favour.  Without constraints every candidate is valid. -/
def isValid (validated : Validated α) : Bool :=
  validated.verdicts.all Value.truthy

def verdictsByName (validated : Validated α) (names : List Text) :
    Except Fault (List (Text × Value)) :=
  if names.length = validated.verdicts.length then
    .ok (Entries.ofList (names.zip validated.verdicts))
  else
    .error (.nameCount validated.verdicts.length names.length)

end Validated

/-! ## Constraints -/

structure Constraint (σ α : Type) where
  name : Text
  predicate : α → Action σ Value

/-- What can be given as a constraint. -/
inductive ConstraintItem (σ α : Type) where
  | named (constraint : Constraint σ α)
  /-- A predicate, with the name it was given and the name it was defined under, as far as it has
  any. -/
  | bare (given defined : Option Value) (predicate : α → Action σ Value)
  /-- A value that is no predicate. -/
  | other (value : Value)

namespace ConstraintItem

variable {σ α : Type}

/-- The name of a definition without one. -/
def anonymous : Text :=
  "<lambda>"

/-- The name of a bare predicate: the one it was given, or else the one it was defined under, or
else its position. -/
def bareName (position : Nat) (given defined : Option Value) : Except Fault Text :=
  let given := given.getD .null
  let name := if given.truthy then given else defined.getD .null
  if name.truthy && name != .str anonymous then name.written else .ok s!"c{position}"

def toConstraint (position : Nat) : ConstraintItem σ α → Except Fault (Constraint σ α)
  | .named constraint => .ok constraint
  | .bare given defined predicate => do return ⟨← bareName position given defined, predicate⟩
  | .other value => .error (.writing [value] (.notAConstraint position value))

def toConstraintsFrom (position : Nat) :
    List (ConstraintItem σ α) → Except Fault (List (Constraint σ α))
  | [] => .ok []
  | item :: rest => do
      let constraint ← item.toConstraint position
      let others ← toConstraintsFrom (position + 1) rest
      return constraint :: others

def toConstraints (items : List (ConstraintItem σ α)) : Except Fault (List (Constraint σ α)) :=
  toConstraintsFrom 0 items

end ConstraintItem

namespace Constraint

variable {σ α : Type}

def listText (constraints : List (Constraint σ α)) : Text :=
  "ConstraintSet(" ++ (Value.list (constraints.map fun constraint => .str constraint.name)).text ++
    ")"

/-- Whether a candidate satisfies a constraint.  A predicate cannot signal the end of an
iteration. -/
def verdict (constraint : Constraint σ α) (candidate : α) : Action σ Bool := fun surroundings =>
  match constraint.predicate candidate surroundings with
  | .ok value after => .ok value.truthy after
  | .error fault after =>
      .error (if fault.kind == .stopIteration then .predicateStopped else fault) after

def verdicts (candidate : α) : List (Constraint σ α) → Action σ (List Bool)
  | [] => pure []
  | constraint :: rest => do
      let verdict ← constraint.verdict candidate
      let others ← verdicts candidate rest
      return verdict :: others

def validate (constraints : List (Constraint σ α)) (candidate : α) : Action σ (Validated α) := do
  let verdicts ← verdicts candidate constraints
  return ⟨candidate, verdicts.map .bool⟩

end Constraint

end RandomSearch
