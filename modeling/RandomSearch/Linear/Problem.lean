import RandomSearch.Linear.Constraint
import RandomSearch.Problem

/-!
# Linear problems over a box of integers

A candidate is drawn uniformly, variable by variable, from inclusive ranges of integers.  Its goal
is linear, and so are the constraints.
-/

namespace RandomSearch

/-- An integer linear problem over an inclusive box. -/
structure LinearProblem where
  names : List Value
  objective : List Value
  lower : List Int
  upper : List Int
  constraints : List LinearConstraint
  direction : Direction

/-- The parts of a linear problem that is still to be checked. -/
structure LinearDraft where
  names : Value
  objective : Value
  lower : Value
  upper : Value
  constraints : List LinearConstraint
  direction : Value

namespace LinearDraft

/-- The limits of all variables on one side: one for each, or one for all. -/
def limits (side : String) (size : Nat) : Value → Except Fault (List Int)
  | .list items | .tuple items =>
      if items.length = size then
        items.mapM Value.toInteger
      else
        .error (.refusal (.limitCount side size items.length))
  | value => do return List.replicate size (← value.toInteger)

def checkRanges : List Int → List Int → List Value → Except Fault Unit
  | lower :: lowers, upper :: uppers, name :: names =>
      if upper < lower then
        .error (.refusal (.emptyRange name lower upper))
      else
        checkRanges lowers uppers names
  | _, _, _ => .ok ()

def checkCoefficients (size : Nat) : List LinearConstraint → Except Fault Unit
  | [] => .ok ()
  | constraint :: rest =>
      if constraint.coefficients.length = size then
        checkCoefficients size rest
      else
        .error (.refusal (.coefficientCount constraint.name size constraint.coefficients.length))

def toProblem (draft : LinearDraft) : Except Fault LinearProblem := do
  let size ← draft.names.length
  if size = 0 then
    throw (.refusal .noVariables)
  let names ← draft.names.iterate
  let objective ← draft.objective.iterate
  let lower ← limits "lower" size draft.lower
  let upper ← limits "upper" size draft.upper
  let direction ← Direction.ofValue draft.direction
  if objective.length ≠ size then
    throw (.refusal (.objectiveCount size objective.length))
  checkRanges lower upper names
  checkCoefficients size draft.constraints
  return ⟨names, objective, lower, upper, draft.constraints, direction⟩

end LinearDraft

namespace LinearProblem

variable {σ : Type}

/-! ## Drawing -/

/-- Whether an integer has sixty-four bits with a sign. -/
def fitsWord (n : Int) : Bool :=
  -0x8000000000000000 ≤ n && n < 0x8000000000000000

/-- Check that the box consists of integers that can be drawn. -/
def checkBox (problem : LinearProblem) : Except Fault Unit :=
  if !problem.lower.all fitsWord then .error (.ofStream .lowerOutOfRange)
  else if !problem.upper.all fitsWord then .error (.ofStream .upperOutOfRange)
  else .ok ()

def goal (problem : LinearProblem) (values : List Value) : Except Fault Value :=
  ((Value.dot problem.objective values).map Value.ofNumber).mapError .ofValue

def mixOf (problem : LinearProblem) (values : List Value) : Except Fault Mix := do
  return ⟨values, ← problem.goal values, problem.names⟩

def draw (problem : LinearProblem) : Action (Generator × σ) Mix := do
  Action.ofExcept problem.checkBox
  let values ← Action.onFirst (Action.step (Generator.drawBox problem.lower problem.upper))
  Action.ofExcept (problem.mixOf (values.map .int))

def selector (problem : LinearProblem) : Selector Mix :=
  ⟨problem.direction, fun mix => .ok mix.goal⟩

def toProblem (problem : LinearProblem) : Problem σ Mix :=
  .ofDraw problem.draw problem.selector

/-! ## Constraints -/

def predicate (constraint : LinearConstraint) (mix : Mix) : Action σ Value :=
  Action.ofExcept ((constraint.holds mix.values).map .bool)

def constraintItem (constraint : LinearConstraint) : ConstraintItem σ Mix :=
  .bare (some constraint.name) none (predicate constraint)

/-- The constraints of a problem, as they are evaluated. -/
def namedConstraints (problem : LinearProblem) : Except Fault (List (Constraint σ Mix)) :=
  ConstraintItem.toConstraints (problem.constraints.map constraintItem)

/-- Put the descriptions of constraints under their names, one after the other. -/
def descriptionsFrom (names : Value) (described : List (Value × Value)) :
    List LinearConstraint → Except Fault (List (Value × Value))
  | [] => .ok described
  | constraint :: rest => do
      let description ← constraint.description names
      Value.checkKey constraint.name
      descriptionsFrom names (Entries.put constraint.name (.str description) described) rest

def descriptions (problem : LinearProblem) : Except Fault (List (Value × Value)) :=
  descriptionsFrom (.list problem.names) [] problem.constraints

/-! ## Equality -/

def equalConstraints : List LinearConstraint → List LinearConstraint → Bool
  | [], [] => true
  | left :: lefts, right :: rights => left.equals right && equalConstraints lefts rights
  | _, _ => false

def equals (left right : LinearProblem) : Bool :=
  Value.equalItems left.names right.names &&
    Value.equalItems left.objective right.objective &&
    left.lower == right.lower && left.upper == right.upper &&
    equalConstraints left.constraints right.constraints && left.direction == right.direction

end LinearProblem

end RandomSearch
