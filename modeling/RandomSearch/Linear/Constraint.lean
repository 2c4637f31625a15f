import RandomSearch.Linear.Mix
import RandomSearch.Value.Arithmetic

/-!
# Linear constraints

A linear constraint compares the sum of coefficients times values with a bound.  Its description
writes that sum without the terms whose coefficient is zero and without coefficients that are one.
-/

namespace RandomSearch

/-- How the sum of a linear constraint has to lie to its bound. -/
inductive Sense where
  | atMost
  | atLeast
  | exactly
  deriving DecidableEq, Repr

namespace Sense

def symbol : Sense → Text
  | .atMost => "<="
  | .atLeast => ">="
  | .exactly => "=="

def comparison : Sense → Comparison
  | .atMost => .le
  | .atLeast => .ge
  | .exactly => .eq

def ofSymbol? (text : Text) : Option Sense :=
  if text = symbol .atMost then some .atMost
  else if text = symbol .atLeast then some .atLeast
  else if text = symbol .exactly then some .exactly
  else none

theorem ofSymbol?_symbol (sense : Sense) : ofSymbol? sense.symbol = some sense := by
  cases sense <;> decide

theorem symbol_of_ofSymbol? {text : Text} {sense : Sense}
    (read : ofSymbol? text = some sense) : sense.symbol = text := by
  unfold ofSymbol? at read
  split at read
  · rename_i same
    cases read
    exact same.symm
  · split at read
    · rename_i same
      cases read
      exact same.symm
    · split at read
      · rename_i same
        cases read
        exact same.symm
      · cases read

end Sense

structure LinearConstraint where
  name : Value
  coefficients : List Value
  bound : Value
  sense : Sense

namespace LinearConstraint

/-- Make a constraint, whose sense must be known and whose coefficients must be listed. -/
def make (name coefficients bound sense : Value) : Except Fault LinearConstraint := do
  Value.checkKey sense
  let known ←
    match sense with
    | .str text =>
        match Sense.ofSymbol? text with
        | some known => .ok known
        | none => .error (.refusal (.unknownSense name sense))
    | _ => .error (.refusal (.unknownSense name sense))
  return ⟨name, ← coefficients.iterate, bound, known⟩

def weightedSum (constraint : LinearConstraint) (values : List Value) : Except Fault Value :=
  ((Value.dot constraint.coefficients values).map Value.ofNumber).mapError .ofValue

def holds (constraint : LinearConstraint) (values : List Value) : Except Fault Bool := do
  let sum ← constraint.weightedSum values
  sum.compare constraint.sense.comparison constraint.bound

/-! ## Descriptions -/

/-- A term of the description: the variable, preceded by its coefficient unless that is one. -/
def term (coefficient variableName : Value) : Except Fault Value := do
  if coefficient.equals (.int 1) then
    return variableName
  else
    return .str ((← coefficient.written) ++ "*" ++ (← variableName.written))

/-- The terms of the description, without those whose coefficient is zero. -/
def terms : List Value → List Value → Except Fault (List Value)
  | coefficient :: coefficients, variableName :: variableNames =>
      if coefficient.equals (.int 0) then
        terms coefficients variableNames
      else do
        let first ← term coefficient variableName
        let others ← terms coefficients variableNames
        return first :: others
  | _, _ => .ok []

def partsFrom (position : Nat) : List Value → Except Fault (List Text)
  | [] => .ok []
  | .str s :: rest => do
      let others ← partsFrom (position + 1) rest
      return s :: others
  | part :: _ => .error (.ofValue (.notATextPart position part.kind))

def description (constraint : LinearConstraint) (variableNames : Value) : Except Fault Text := do
  let names ← variableNames.iterate
  let parts ← partsFrom 0 (← terms constraint.coefficients names)
  let bound ← constraint.bound.written
  return Text.joinWith " + " parts ++ " " ++ constraint.sense.symbol ++ " " ++ bound

def equals (left right : LinearConstraint) : Bool :=
  left.name.equals right.name && Value.equalItems left.coefficients right.coefficients &&
    left.bound.equals right.bound && left.sense == right.sense

end LinearConstraint

end RandomSearch
