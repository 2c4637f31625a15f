import RandomSearch.Linear.Problem

/-!
# The product mix

The standard example of a linear problem: how much to make of two products, so that the profit is
largest while the capacity, the labour and the time on the machines suffice.
-/

namespace RandomSearch.LinearProblem

def limitOn (resource : String) (first second limit : Int) : LinearConstraint :=
  ⟨.str resource, [.int first, .int second], .int limit, .atMost⟩

/-- The product mix.  Its optimum is 122 of the first product and 78 of the second. -/
def productMix : LinearProblem where
  names := [.str "x1", .str "x2"]
  objective := [.int 350, .int 300]
  lower := [1, 1]
  upper := [174, 174]
  constraints := [
    limitOn "capacity" 1 1 200,
    limitOn "labour" 9 6 1566,
    limitOn "machine_time" 12 16 2880]
  direction := .maximise

end RandomSearch.LinearProblem
