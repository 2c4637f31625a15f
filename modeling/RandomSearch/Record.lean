import RandomSearch.Linear.Mix
import RandomSearch.Linear.Constraint
import RandomSearch.Constraint
import RandomSearch.Selector
import RandomSearch.Value.Remainder

/-!
# Candidates with attributes

Predicates and selectors that are written down as data look only at the attributes of a candidate.
A record is a candidate that has nothing but attributes.
-/

namespace RandomSearch

class HasAttributes (α : Type) where
  attributeNamed : α → Text → Except Fault Value

export HasAttributes (attributeNamed)

instance : HasAttributes Mix :=
  ⟨Mix.attributeNamed⟩

/-- A candidate that has nothing but attributes. -/
structure Record where
  fields : List (Text × Value)

namespace Record

/-- The name under which a record is an object with attributes. -/
def className : String :=
  "Candidate"

def attributeNamed (record : Record) (name : Text) : Except Fault Value :=
  match Entries.get? record.fields name with
  | some value => .ok value
  | none => .error (.ofValue (.noAttribute className name))

end Record

instance : HasAttributes Record :=
  ⟨Record.attributeNamed⟩

/-! ## Selectors -/

def goalAttribute : Text :=
  "goal"

def Selector.byAttribute {α : Type} [HasAttributes α] (direction : Direction)
    (attributeName : Text) : Selector α :=
  ⟨direction, fun candidate => attributeNamed candidate attributeName⟩

/-- The selector by the largest goal. -/
def Selector.usual {α : Type} [HasAttributes α] : Selector α :=
  .byAttribute .maximise goalAttribute

/-! ## Predicates -/

/-- A predicate that is written down. -/
inductive Predicate where
  | constant (value : Value)
  | attributeValue (name : Text)
  /-- The remainder of an attribute by a modulus equals a value. -/
  | remainder (name : Text) (modulus expected : Value)
  | compares (name : Text) (comparison : Comparison) (value : Value)
  /-- Fail with a fault, always or where an attribute equals a value. -/
  | failing (fault : Fault) (condition : Option (Text × Value))
  /-- A linear constraint on the attribute that holds the values. -/
  | linear (constraint : LinearConstraint)

namespace Predicate

variable {α : Type} [HasAttributes α]

def eval (predicate : Predicate) (candidate : α) : Except Fault Value :=
  match predicate with
  | .constant value => .ok value
  | .attributeValue name => attributeNamed candidate name
  | .remainder name modulus expected => do
      let value ← attributeNamed candidate name
      let remainder ← (value.remainder modulus).mapError .ofValue
      return .bool (remainder.equals expected)
  | .compares name comparison value => do
      return .bool (← (← attributeNamed candidate name).compare comparison value)
  | .failing fault none => .error fault
  | .failing fault (some (name, value)) => do
      if (← attributeNamed candidate name).equals value then
        throw fault
      return .bool true
  | .linear constraint => do
      let values ← (← attributeNamed candidate "values").iterate
      return .bool (← constraint.holds values)

def toAction {σ : Type} (predicate : Predicate) (candidate : α) : Action σ Value :=
  Action.ofExcept (predicate.eval candidate)

end Predicate

end RandomSearch
