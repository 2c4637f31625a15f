import RandomSearch.Text.Lower
import RandomSearch.Value.Convert

/-!
# The direction of a search

A search looks for the largest or the smallest goal.
-/

namespace RandomSearch

inductive Direction where
  | maximise
  | minimise
  deriving DecidableEq, Repr

namespace Direction

def name : Direction → String
  | .maximise => "MAXIMISE"
  | .minimise => "MINIMISE"

def word : Direction → String
  | .maximise => "max"
  | .minimise => "min"

def words : Direction → List Text
  | .maximise => ["max", "maximise", "maximize"]
  | .minimise => ["min", "minimise", "minimize"]

/-- Read a direction.  Blanks around the word and the case of its letters do not matter. -/
def ofValue (value : Value) : Except Fault Direction := do
  let key := (← value.written).trim.lower
  if key ∈ words .maximise then
    return .maximise
  else if key ∈ words .minimise then
    return .minimise
  else
    throw (.refusal (.unknownDirection value))

/-- The comparison that holds between a better goal and a worse one. -/
def comparison : Direction → Comparison
  | .maximise => .gt
  | .minimise => .lt

def prefers (direction : Direction) (goal incumbent : Value) : Except Fault Bool :=
  Value.compare direction.comparison goal incumbent

end Direction

end RandomSearch
