import RandomSearch.Linear.Problem

/-!
# Reading linear problems

A linear problem is read from a map with the names of its variables, the coefficients of its
objective, the limits of its box, its constraints and its direction.  The last two may be missing,
and so may the name and the sense of a constraint.
-/

namespace RandomSearch

/-- The sense of a constraint for which none is given. -/
def LinearConstraint.usualSense : Text :=
  Sense.symbol .atMost

def LinearProblem.usualDirection : String :=
  Direction.word .maximise

def LinearConstraint.ofValue (position : Nat) (item : Value) : Except Fault LinearConstraint := do
  let entries ← item.entries
  let name ← (Value.fieldOr entries "name" (.str s!"c{position}")).written
  let coefficients ← (← Value.field entries "coefficients").iterate
  let bound ← Value.field entries "bound"
  let sense ← (Value.fieldOr entries "sense" (.str usualSense)).written
  make (.str name) (.list coefficients) bound (.str sense)

def LinearConstraint.ofValuesFrom (position : Nat) :
    List Value → Except Fault (List LinearConstraint)
  | [] => .ok []
  | item :: rest => do
      let constraint ← ofValue position item
      let others ← ofValuesFrom (position + 1) rest
      return constraint :: others

namespace LinearDraft

def ofValue (data : Value) : Except Fault LinearDraft := do
  let entries ← data.entries
  let listed := Value.fieldOr entries "constraints" .null
  let items ← if listed.truthy then listed.iterate else .ok []
  let constraints ← LinearConstraint.ofValuesFrom 0 items
  let names ← (← (← Value.field entries "variables").iterate).mapM Value.written
  let objective ← (← Value.field entries "objective").iterate
  let lower ← Value.field entries "lower"
  let upper ← Value.field entries "upper"
  let direction := Value.fieldOr entries "direction" (.str LinearProblem.usualDirection)
  return ⟨.list (names.map .str), .list objective, lower, upper, constraints, direction⟩

end LinearDraft

/-- Whether a fault shows that a document has not the expected shape. -/
def Fault.isShape (fault : Fault) : Bool :=
  fault.kind == .keyError || fault.kind == .typeError || fault.kind == .attributeError

def LinearProblem.ofValue (data : Value) : Except Fault LinearProblem :=
  match LinearDraft.ofValue data >>= LinearDraft.toProblem with
  | .ok problem => .ok problem
  | .error fault => .error (if fault.isShape then .malformed .problem fault else fault)

end RandomSearch
