import Mathlib.Algebra.BigOperators.Fin
import Mathlib.Data.List.Forall2
import RandomSearch.Linear.Problem
import RandomSearch.Proofs.Action
import RandomSearch.Proofs.Selection

/-!
# Linear problems in integers

A linear problem whose coefficients and bounds are integers is evaluated in exact integer
arithmetic.  What is drawn lies in the box, has the total of the objective as its goal, and is valid
exactly if it satisfies all constraints.
-/

namespace RandomSearch

/-! ## Integers among values -/

namespace Value

/-- A value that stands for an integer. -/
def IsInteger (value : Value) : Prop :=
  ∃ n, value.number? = some (.int n)

instance (value : Value) : Decidable value.IsInteger :=
  match number : value.number? with
  | some (.int n) => .isTrue ⟨n, number⟩
  | some (.float _) => .isFalse fun ⟨_, other⟩ => nomatch number.symm.trans other
  | none => .isFalse fun ⟨_, other⟩ => nomatch number.symm.trans other

/-- The integer a value stands for, or zero. -/
def integer (value : Value) : Int :=
  match value.number? with
  | some (.int n) => n
  | _ => 0

theorem IsInteger.number?_eq {value : Value} (integer : value.IsInteger) :
    value.number? = some (.int value.integer) := by
  obtain ⟨n, number⟩ := integer
  unfold Value.integer
  rw [number]

/-- The sum of the weights times the coordinates of a point, over all coordinates. -/
def weightedTotal (weights : List Value) (point : List Int) : Int :=
  ∑ position ∈ Finset.range point.length,
    (weights.getD position .null).integer * point.getD position 0

theorem weightedTotal_nil (point : List Int) : weightedTotal [] point = 0 := by
  apply Finset.sum_eq_zero
  intro position _
  exact Int.zero_mul _

theorem weightedTotal_cons (weight : Value) (weights : List Value) (first : Int)
    (others : List Int) :
    weightedTotal (weight :: weights) (first :: others) =
      weight.integer * first + weightedTotal weights others := by
  unfold weightedTotal
  rw [List.length_cons, Finset.sum_range_succ', Int.add_comm]
  rfl

/-- Over integers the running total is the start plus the weighted total. -/
theorem addProducts_of_isInteger {weights : List Value}
    (integers : ∀ weight ∈ weights, weight.IsInteger) (total : Int) (point : List Int) :
    addProducts (.int total) weights (point.map .int) =
      .ok (.int (total + weightedTotal weights point)) := by
  induction weights generalizing total point with
  | nil => rw [weightedTotal_nil, Int.add_zero, addProducts.eq_def]
  | cons weight weights inductionHypothesis =>
      cases point with
      | nil => simp [addProducts, weightedTotal]
      | cons first others =>
          have number := (integers weight List.mem_cons_self).number?_eq
          have product : times weight (.int first) =
              .ok (.number (.int (weight.integer * first))) := by
            unfold times
            rw [number]
            rfl
          have later := inductionHypothesis
            (fun other member => integers other (List.mem_cons_of_mem weight member))
            (total + weight.integer * first) others
          simp only [List.map_cons, addProducts, product, plus_int, bind, Except.bind, later,
            weightedTotal_cons, Int.add_assoc]

theorem dot_of_isInteger {weights : List Value}
    (integers : ∀ weight ∈ weights, weight.IsInteger) (point : List Int) :
    dot weights (point.map .int) = .ok (.int (weightedTotal weights point)) := by
  unfold dot
  rw [addProducts_of_isInteger integers, Int.zero_add]

end Value

/-! ## Constraints -/

/-- How a sum has to lie to a bound. -/
def Sense.Holds : Sense → Int → Int → Prop
  | .atMost, sum, bound => sum ≤ bound
  | .atLeast, sum, bound => bound ≤ sum
  | .exactly, sum, bound => sum = bound

instance (sense : Sense) (sum bound : Int) : Decidable (sense.Holds sum bound) :=
  match sense with
  | .atMost => inferInstanceAs (Decidable (sum ≤ bound))
  | .atLeast => inferInstanceAs (Decidable (bound ≤ sum))
  | .exactly => inferInstanceAs (Decidable (sum = bound))

theorem Sense.compare_int (sense : Sense) (sum : Int) {bound : Value} (integer : bound.IsInteger) :
    (Value.int sum).compare sense.comparison bound =
      .ok (decide (sense.Holds sum bound.integer)) := by
  rw [Value.compare_of_rank _ (Value.rank?_of_int rfl) (Value.rank?_of_int integer.number?_eq)]
  have integers := Comparison.relates_ofInt sense.comparison sum bound.integer
  cases sense with
  | atMost => exact congrArg Except.ok (decide_eq_decide.mpr integers)
  | atLeast => exact congrArg Except.ok (decide_eq_decide.mpr integers)
  | exactly => exact congrArg Except.ok (decide_eq_decide.mpr integers)

namespace LinearConstraint

/-- A constraint with integers as its coefficients and its bound. -/
structure IsIntegral (constraint : LinearConstraint) : Prop where
  coefficients : ∀ coefficient ∈ constraint.coefficients, coefficient.IsInteger
  bound : constraint.bound.IsInteger

/-- Whether a point satisfies a constraint. -/
def Allows (constraint : LinearConstraint) (point : List Int) : Prop :=
  constraint.sense.Holds (Value.weightedTotal constraint.coefficients point)
    constraint.bound.integer

instance (constraint : LinearConstraint) (point : List Int) : Decidable (constraint.Allows point) :=
  inferInstanceAs (Decidable (Sense.Holds _ _ _))

theorem IsIntegral.holds {constraint : LinearConstraint} (integral : constraint.IsIntegral)
    (point : List Int) :
    constraint.holds (point.map .int) = .ok (decide (constraint.Allows point)) := by
  have sum : constraint.weightedSum (point.map .int) =
      .ok (.int (Value.weightedTotal constraint.coefficients point)) := by
    unfold weightedSum
    rw [Value.dot_of_isInteger integral.coefficients]
    rfl
  unfold LinearConstraint.holds
  rw [sum]
  exact constraint.sense.compare_int _ integral.bound

end LinearConstraint

/-! ## Problems that pass the checks -/

/-- A problem with limits, a weight and coefficients for every variable, and with something in every
range. -/
structure LinearProblem.IsWellFormed (problem : LinearProblem) : Prop where
  objective : problem.objective.length = problem.names.length
  lower : problem.lower.length = problem.names.length
  ranges : List.Forall₂ (· ≤ ·) problem.lower problem.upper
  coefficients : ∀ constraint ∈ problem.constraints,
    constraint.coefficients.length = problem.names.length

namespace LinearDraft

theorem length_mapM {items : List Value} {results : List Int}
    (read : items.mapM Value.toInteger = .ok results) : results.length = items.length := by
  induction items generalizing results with
  | nil =>
      cases read
      rfl
  | cons item rest inductionHypothesis =>
      rw [List.mapM_cons] at read
      obtain ⟨first, _, read⟩ := except_bind_eq_ok_iff.mp read
      obtain ⟨others, readOthers, read⟩ := except_bind_eq_ok_iff.mp read
      cases read
      rw [List.length_cons, List.length_cons, inductionHypothesis readOthers]

theorem length_limits {side : String} {size : Nat} {value : Value} {results : List Int}
    (read : limits side size value = .ok results) : results.length = size := by
  have listed : ∀ items : List Value,
      (if items.length = size then items.mapM Value.toInteger
        else .error (.refusal (.limitCount side size items.length))) = .ok results →
          results.length = size := by
    intro items chosen
    split at chosen
    · rename_i count
      rw [length_mapM chosen, count]
    · cases chosen
  unfold limits at read
  split at read
  · exact listed _ read
  · exact listed _ read
  · obtain ⟨limit, _, read⟩ := except_bind_eq_ok_iff.mp read
    cases read
    exact List.length_replicate

theorem forall₂_of_checkRanges {lowers uppers : List Int} {names : List Value}
    (passed : checkRanges lowers uppers names = .ok ()) (lowerCount : lowers.length = names.length)
    (upperCount : uppers.length = names.length) : List.Forall₂ (· ≤ ·) lowers uppers := by
  induction names generalizing lowers uppers with
  | nil =>
      rw [List.length_eq_zero_iff.mp lowerCount, List.length_eq_zero_iff.mp upperCount]
      exact .nil
  | cons name names inductionHypothesis =>
      obtain ⟨lower, lowers, rfl⟩ := List.exists_cons_of_length_eq_add_one lowerCount
      obtain ⟨upper, uppers, rfl⟩ := List.exists_cons_of_length_eq_add_one upperCount
      unfold checkRanges at passed
      split at passed
      · cases passed
      · rename_i notEmpty
        exact .cons (Int.not_lt.mp notEmpty)
          (inductionHypothesis passed (Nat.succ.inj lowerCount) (Nat.succ.inj upperCount))

theorem length_of_checkCoefficients {size : Nat} {constraints : List LinearConstraint}
    (passed : checkCoefficients size constraints = .ok ()) :
    ∀ constraint ∈ constraints, constraint.coefficients.length = size := by
  induction constraints with
  | nil =>
      intro constraint member
      cases member
  | cons constraint rest inductionHypothesis =>
      unfold checkCoefficients at passed
      split at passed
      · rename_i count
        exact List.forall_mem_cons.mpr ⟨count, inductionHypothesis passed⟩
      · cases passed

/-- What the checks find of a draft that passes them, and what is made of it. -/
structure Passes (draft : LinearDraft) (problem : LinearProblem) (size : Nat) : Prop where
  measured : draft.names.length = .ok size
  names : draft.names.iterate = .ok problem.names
  lower : limits "lower" size draft.lower = .ok problem.lower
  upper : limits "upper" size draft.upper = .ok problem.upper
  objective : problem.objective.length = size
  ranges : checkRanges problem.lower problem.upper problem.names = .ok ()
  coefficients : checkCoefficients size draft.constraints = .ok ()
  constraints : problem.constraints = draft.constraints

theorem exists_passes_of_toProblem {draft : LinearDraft} {problem : LinearProblem}
    (made : draft.toProblem = .ok problem) : ∃ size, draft.Passes problem size := by
  unfold toProblem at made
  obtain ⟨size, measured, made⟩ := except_bind_eq_ok_iff.mp made
  split at made
  · cases made
  obtain ⟨names, listed, made⟩ := except_bind_eq_ok_iff.mp made
  obtain ⟨objective, _, made⟩ := except_bind_eq_ok_iff.mp made
  obtain ⟨lower, readLower, made⟩ := except_bind_eq_ok_iff.mp made
  obtain ⟨upper, readUpper, made⟩ := except_bind_eq_ok_iff.mp made
  obtain ⟨direction, _, made⟩ := except_bind_eq_ok_iff.mp made
  split at made
  · cases made
  rename_i objectiveCount
  obtain ⟨_, ranges, made⟩ := except_bind_eq_ok_iff.mp made
  obtain ⟨_, coefficients, made⟩ := except_bind_eq_ok_iff.mp made
  cases made
  exact ⟨size, measured, listed, readLower, readUpper, not_not.mp objectiveCount, ranges,
    coefficients, rfl⟩

theorem Passes.length_names {draft : LinearDraft} {problem : LinearProblem} {size : Nat}
    (passes : draft.Passes problem size) : problem.names.length = size := by
  have measured := passes.measured
  have listed := passes.names
  unfold Value.length at measured
  unfold Value.iterate at listed
  cases items : draft.names.items? with
  | none =>
      rw [items] at measured
      cases measured
  | some present =>
      rw [items] at measured listed
      cases measured
      cases listed
      rfl

/-- Every problem that passes the checks is well-formed. -/
theorem isWellFormed_of_toProblem {draft : LinearDraft} {problem : LinearProblem}
    (made : draft.toProblem = .ok problem) : problem.IsWellFormed := by
  obtain ⟨size, passes⟩ := exists_passes_of_toProblem made
  have count := passes.length_names
  have lowerCount := (length_limits passes.lower).trans count.symm
  have upperCount := (length_limits passes.upper).trans count.symm
  refine ⟨passes.objective.trans count.symm, lowerCount,
    forall₂_of_checkRanges passes.ranges lowerCount upperCount, fun constraint member => ?_⟩
  rw [passes.constraints] at member
  exact (length_of_checkCoefficients passes.coefficients constraint member).trans count.symm

end LinearDraft

end RandomSearch
