import RandomSearch.Linear.Reading
import RandomSearch.Proofs.Batches
import RandomSearch.Proofs.Box
import RandomSearch.Proofs.Course

/-!
# Linear searches that fail

A problem that can be read may still make every search fail.  Its box may have a limit of more than
sixty-four bits, and a weight, a coefficient or a bound may be no number, which is noticed only in
the course of a search.  A sum that leaves the integers may also need an integer as a float that is
too large for one.  A parallel search for the optimum of a problem that has been read fails for no
other reason, and always because of its workers.
-/

namespace RandomSearch

variable {σ : Type}

/-! ## Sums of products -/

namespace Value

/-- A value that stands for a number. -/
def IsNumber (value : Value) : Prop :=
  ∃ number, value.number? = some number

/-- What is no number can at most be repeated. -/
theorem times_of_not_isNumber {weight : Value} {n : Int} {product : Product}
    (notNumber : ¬ weight.IsNumber) (multiplied : weight.times (.int n) = .ok product) :
    ∃ kind, product = .repeated kind := by
  have noNumber : weight.number? = none := by
    cases found : weight.number? with
    | none => rfl
    | some number => exact absurd ⟨number, found⟩ notNumber
  have repeats : ∀ length, repetition weight.kind length (.int n) = .ok product →
      ∃ kind, product = .repeated kind := by
    intro length repeated
    simp only [repetition, number?] at repeated
    split at repeated
    · cases repeated
    · split at repeated
      · cases repeated
      · split at repeated
        · cases repeated
        · exact ⟨weight.kind, (Except.ok.inj repeated).symm⟩
  have notRepeated : (Value.int n).repeatable? = none := rfl
  unfold times at multiplied
  rw [noNumber, notRepeated] at multiplied
  cases length : weight.repeatable? with
  | none =>
      rw [length] at multiplied
      cases multiplied
  | some length =>
      rw [length] at multiplied
      exact repeats _ multiplied

theorem addProducts_cons (total : Number) (weight : Value) (weights : List Value) (first : Int)
    (others : List Int) :
    addProducts total (weight :: weights) ((first :: others).map .int) =
      weight.times (.int first) >>= fun product =>
        plus total product >>= fun sum => addProducts sum weights (others.map .int) := by
  rw [List.map_cons, addProducts]

/-- Only numbers can be weights of a sum that is known. -/
theorem isNumber_of_addProducts {weights : List Value} {point : List Int} {total sum : Number}
    (counts : weights.length = point.length)
    (added : addProducts total weights (point.map .int) = .ok sum) :
    ∀ weight ∈ weights, weight.IsNumber := by
  induction weights generalizing point total with
  | nil => exact List.forall_mem_nil _
  | cons weight weights inductionHypothesis =>
      obtain ⟨first, others, rfl⟩ := List.exists_cons_of_length_eq_add_one counts.symm
      rw [addProducts_cons] at added
      obtain ⟨product, multiplied, added⟩ := except_bind_eq_ok_iff.mp added
      obtain ⟨next, summed, added⟩ := except_bind_eq_ok_iff.mp added
      refine List.forall_mem_cons.mpr ⟨?_, inductionHypothesis (Nat.succ.inj counts) added⟩
      by_contra notNumber
      -- A repetition cannot be added to a number.
      obtain ⟨kind, rfl⟩ := times_of_not_isNumber notNumber multiplied
      cases summed

theorem times_of_number {weight : Value} {factor : Number} (number : weight.number? = some factor)
    (n : Int) :
    (∃ product, weight.times (.int n) = .ok (.number product)) ∨
      weight.times (.int n) = .error .integerTooLargeForFloat := by
  unfold times
  rw [number]
  simp only [number?]
  cases factor.mul? (.int n) with
  | some product => exact Or.inl ⟨product, rfl⟩
  | none => exact Or.inr rfl

theorem plus_number (total product : Number) :
    (∃ sum, plus total (.number product) = .ok sum) ∨
      plus total (.number product) = .error .integerTooLargeForFloat := by
  unfold plus
  dsimp only
  cases total.add? product with
  | some sum => exact Or.inl ⟨sum, rfl⟩
  | none => exact Or.inr rfl

/-- Nothing but an overflow keeps a sum with numbers as weights from being known. -/
theorem addProducts_of_isNumber {weights : List Value} {point : List Int} {total : Number}
    {fault : ValueFault} (numbers : ∀ weight ∈ weights, weight.IsNumber)
    (failed : addProducts total weights (point.map .int) = .error fault) :
    fault = .integerTooLargeForFloat := by
  induction weights generalizing point total with
  | nil => cases failed
  | cons weight weights inductionHypothesis =>
      obtain ⟨⟨factor, number⟩, others⟩ := List.forall_mem_cons.mp numbers
      cases point with
      | nil => cases failed
      | cons first rest =>
          rw [addProducts_cons] at failed
          rcases times_of_number number first with ⟨product, multiplied⟩ | overflow
          · rw [multiplied] at failed
            change (plus total (.number product) >>= _) = _ at failed
            rcases plus_number total product with ⟨sum, summed⟩ | overflow
            · rw [summed] at failed
              exact inductionHypothesis others failed
            · rw [overflow] at failed
              exact (Except.error.inj failed).symm
          · rw [overflow] at failed
            exact (Except.error.inj failed).symm

/-- The sum of the weights times the coordinates of a point needs an integer as a float that is too
large for one. -/
def SumOverflows (weights : List Value) (point : List Int) : Prop :=
  dot weights (point.map .int) = .error .integerTooLargeForFloat

theorem exists_dot_iff {weights : List Value} {point : List Int}
    (counts : weights.length = point.length) :
    (∃ sum, dot weights (point.map .int) = .ok sum) ↔
      (∀ weight ∈ weights, weight.IsNumber) ∧ ¬ SumOverflows weights point := by
  unfold SumOverflows
  constructor
  · rintro ⟨sum, summed⟩
    refine ⟨isNumber_of_addProducts counts summed, fun overflows => ?_⟩
    rw [summed] at overflows
    cases overflows
  · rintro ⟨numbers, calm⟩
    cases summed : dot weights (point.map .int) with
    | ok sum => exact ⟨sum, rfl⟩
    | error fault =>
        rw [summed, addProducts_of_isNumber numbers summed] at calm
        exact absurd rfl calm

end Value

/-! ## Verdicts -/

theorem Value.exists_order_iff (number : Number) (other : Value) :
    (∃ order, (ofNumber number).order other = .ok order) ↔ other.IsNumber := by
  constructor
  · rintro ⟨order, ordered⟩
    unfold IsNumber
    cases number with
    | _ =>
        cases other with
        | bool _ | int _ | float _ => exact ⟨_, rfl⟩
        | _ => cases ordered
  · rintro ⟨otherNumber, isNumber⟩
    exact ⟨_, order_of_number (number?_ofNumber number) isNumber⟩

/-- A sum can be compared by order with numbers, and be equal or not to anything. -/
theorem Sense.exists_compare_iff (sense : Sense) (sum : Number) (bound : Value) :
    (∃ verdict, (Value.ofNumber sum).compare sense.comparison bound = .ok verdict) ↔
      sense = .exactly ∨ bound.IsNumber := by
  have byOrder : ∀ comparison : Comparison,
      (∃ verdict, (((Value.ofNumber sum).order bound).map comparison.holds).mapError
        (fun kinds => Fault.ofValue (.unordered comparison kinds.1 kinds.2)) = .ok verdict) ↔
          bound.IsNumber := by
    intro comparison
    rw [← Value.exists_order_iff sum bound]
    cases (Value.ofNumber sum).order bound with
    | ok order => exact iff_of_true ⟨_, rfl⟩ ⟨order, rfl⟩
    | error kinds => exact iff_of_false (not_exists_error_eq_ok _) (not_exists_error_eq_ok kinds)
  cases sense with
  | exactly => exact iff_of_true ⟨_, rfl⟩ (Or.inl rfl)
  | atMost =>
      refine (byOrder .le).trans ⟨Or.inr, fun known => known.resolve_left fun same => ?_⟩
      cases same
  | atLeast =>
      refine (byOrder .ge).trans ⟨Or.inr, fun known => known.resolve_left fun same => ?_⟩
      cases same

namespace LinearConstraint

/-- A constraint whose coefficients are numbers, and whose bound is one where it is to be compared
by order. -/
structure IsNumeric (constraint : LinearConstraint) : Prop where
  coefficients : ∀ coefficient ∈ constraint.coefficients, coefficient.IsNumber
  bound : constraint.sense = .exactly ∨ constraint.bound.IsNumber

theorem exists_holds_iff {constraint : LinearConstraint} {point : List Int}
    (counts : constraint.coefficients.length = point.length) :
    (∃ verdict, constraint.holds (point.map .int) = .ok verdict) ↔
      constraint.IsNumeric ∧ ¬ Value.SumOverflows constraint.coefficients point := by
  have summed := Value.exists_dot_iff counts
  unfold holds weightedSum
  cases sum : Value.dot constraint.coefficients (point.map .int) with
  | ok total =>
      obtain ⟨numbers, calm⟩ := summed.mp ⟨total, sum⟩
      refine (constraint.sense.exists_compare_iff total constraint.bound).trans ?_
      exact ⟨fun bound => ⟨⟨numbers, bound⟩, calm⟩, fun numeric => numeric.1.bound⟩
  | error fault =>
      refine iff_of_false (not_exists_error_eq_ok _) fun numeric => ?_
      obtain ⟨total, known⟩ := summed.mpr ⟨numeric.1.coefficients, numeric.2⟩
      rw [sum] at known
      cases known

end LinearConstraint

/-! ## Points -/

/-- Draw points from a box, one after the other. -/
def Generator.drawBoxes (lowers uppers : List Int) :
    Nat → Generator → List (List Int) × Generator
  | 0, generator => ([], generator)
  | count + 1, generator =>
      let drawn := generator.drawBox lowers uppers
      let others := drawBoxes lowers uppers count drawn.2
      (drawn.1 :: others.1, others.2)

theorem Generator.length_of_mem_drawBoxes {lowers uppers point : List Int} {count : Nat}
    {generator : Generator} (sameLength : lowers.length = uppers.length)
    (member : point ∈ (generator.drawBoxes lowers uppers count).1) :
    point.length = lowers.length := by
  induction count generalizing generator with
  | zero => cases member
  | succ count inductionHypothesis =>
      rcases List.mem_cons.mp member with rfl | later
      · rw [length_drawBox, sameLength, Nat.min_self]
      · exact inductionHypothesis later

namespace LinearProblem

variable {problem : LinearProblem}

/-- The points that are drawn from the box of a problem, one after the other. -/
def points (problem : LinearProblem) (count : Nat) (generator : Generator) : List (List Int) :=
  (generator.drawBoxes problem.lower problem.upper count).1

/-- All limits can be drawn. -/
structure FitsWords (problem : LinearProblem) : Prop where
  lower : ∀ limit ∈ problem.lower, fitsWord limit = true
  upper : ∀ limit ∈ problem.upper, fitsWord limit = true

theorem checkBox_eq_ok_iff : problem.checkBox = .ok () ↔ problem.FitsWords := by
  refine ⟨fun checked => ?_, fun fits => checkBox_eq_ok fits.lower fits.upper⟩
  unfold checkBox at checked
  split at checked
  · cases checked
  · rename_i lowerFits
    split at checked
    · cases checked
    · rename_i upperFits
      exact ⟨List.all_eq_true.mp (by simpa using lowerFits),
        List.all_eq_true.mp (by simpa using upperFits)⟩

/-- A problem with numbers as its weights, its coefficients, and the bounds that are compared by
order. -/
structure IsNumeric (problem : LinearProblem) : Prop where
  objective : ∀ weight ∈ problem.objective, weight.IsNumber
  constraints : ∀ constraint ∈ problem.constraints, constraint.IsNumeric

/-- At a point some sum needs an integer as a float that is too large for one. -/
def Overflows (problem : LinearProblem) (point : List Int) : Prop :=
  Value.SumOverflows problem.objective point ∨
    ∃ constraint ∈ problem.constraints, Value.SumOverflows constraint.coefficients point

/-- A point has a goal, and every constraint has a verdict on it. -/
structure Evaluates (problem : LinearProblem) (point : List Int) : Prop where
  goal : ∃ mix, problem.mixOf (point.map .int) = .ok mix
  verdicts : ∀ constraint ∈ problem.constraints,
    ∃ verdict, constraint.holds (point.map .int) = .ok verdict

theorem exists_mixOf_iff {point : List Int} (counts : problem.objective.length = point.length) :
    (∃ mix, problem.mixOf (point.map .int) = .ok mix) ↔
      (∀ weight ∈ problem.objective, weight.IsNumber) ∧
        ¬ Value.SumOverflows problem.objective point := by
  rw [← Value.exists_dot_iff counts]
  unfold mixOf LinearProblem.goal
  cases Value.dot problem.objective (point.map .int) with
  | ok sum => exact iff_of_true ⟨_, rfl⟩ ⟨sum, rfl⟩
  | error fault => exact iff_of_false (not_exists_error_eq_ok _) (not_exists_error_eq_ok fault)

theorem evaluates_iff (formed : problem.IsWellFormed) {point : List Int}
    (count : point.length = problem.names.length) :
    problem.Evaluates point ↔ problem.IsNumeric ∧ ¬ problem.Overflows point := by
  have goal := exists_mixOf_iff (formed.objective.trans count.symm)
  have verdict := fun constraint member =>
    LinearConstraint.exists_holds_iff ((formed.coefficients constraint member).trans count.symm)
  constructor
  · intro evaluates
    obtain ⟨weights, calm⟩ := goal.mp evaluates.goal
    refine ⟨⟨weights, fun constraint member => ?_⟩, ?_⟩
    · exact ((verdict constraint member).mp (evaluates.verdicts constraint member)).1
    · rintro (overflows | ⟨constraint, member, overflows⟩)
      · exact calm overflows
      · exact ((verdict constraint member).mp (evaluates.verdicts constraint member)).2 overflows
  · rintro ⟨numeric, calm⟩
    refine ⟨goal.mpr ⟨numeric.objective, fun overflows => calm (Or.inl overflows)⟩,
      fun constraint member => (verdict constraint member).mpr ?_⟩
    exact ⟨numeric.constraints constraint member,
      fun overflows => calm (Or.inr ⟨constraint, member, overflows⟩)⟩

/-! ## Passes -/

variable {constraints : List (Constraint σ Mix)} {generator : Generator} {surroundings : σ}

theorem draw_eq_ok_iff (fits : problem.FitsWords) {mix : Mix} {last : Generator × σ} :
    problem.draw (generator, surroundings) = .ok mix last ↔
      problem.mixOf ((generator.drawBox problem.lower problem.upper).1.map .int) = .ok mix ∧
        last = ((generator.drawBox problem.lower problem.upper).2, surroundings) := by
  rw [draw_of_checkBox (checkBox_eq_ok_iff.mpr fits)]
  cases problem.mixOf ((generator.drawBox problem.lower problem.upper).1.map .int) with
  | ok present =>
      constructor
      · intro same
        cases same
        exact ⟨rfl, rfl⟩
      · rintro ⟨same, rfl⟩
        cases same
        rfl
  | error fault =>
      refine iff_of_false (fun same => by cases same) ?_
      rintro ⟨same, _⟩
      cases same

/-- Draws return exactly if all points that are drawn have goals. -/
theorem draws_iff (fits : problem.FitsWords) {count : Nat} {mixes : List Mix}
    {last : Generator × σ} :
    (Sampler.mk problem.toProblem constraints).Draws count (generator, surroundings) mixes last ↔
      List.Forall₂ (fun mix point => problem.mixOf (point.map .int) = .ok mix) mixes
          (problem.points count generator) ∧
        last = ((generator.drawBoxes problem.lower problem.upper count).2, surroundings) := by
  unfold Sampler.Draws points
  -- The generator moves on with every draw, and whether a draw returns does not change that.
  induction count generalizing generator mixes with
  | zero =>
      constructor
      · intro returns
        cases returns
        exact ⟨.nil, rfl⟩
      · rintro ⟨drawn, rfl⟩
        cases drawn
        exact .nil _
  | succ count inductionHypothesis =>
      rw [List.replicate_succ]
      constructor
      · intro returns
        cases returns with
        | cons ran later =>
            obtain ⟨mix, rfl⟩ := (draw_eq_ok_iff fits).mp ran
            obtain ⟨others, same⟩ := inductionHypothesis.mp later
            exact ⟨.cons mix others, same⟩
      · rintro ⟨drawn, rfl⟩
        cases drawn with
        | cons mix others =>
            exact .cons ((draw_eq_ok_iff fits).mpr ⟨mix, rfl⟩)
              (inductionHypothesis.mpr ⟨others, rfl⟩)

theorem succeeds_verdict_iff {constraint : Constraint σ Mix} {given : LinearConstraint} {mix : Mix}
    (asks : constraint.predicate = predicate given) :
    (constraint.verdict mix).Succeeds surroundings ↔
      ∃ verdict, given.holds mix.values = .ok verdict := by
  unfold Action.Succeeds Constraint.verdict
  rw [asks]
  unfold predicate
  cases given.holds mix.values with
  | ok verdict => exact iff_of_true ⟨_, _, rfl⟩ ⟨verdict, rfl⟩
  | error fault =>
      refine iff_of_false ?_ (not_exists_error_eq_ok fault)
      rintro ⟨_, _, same⟩
      cases same

theorem AreAsked.forall_verdict_iff {linear : List LinearConstraint}
    (asked : AreAsked linear constraints) {mix : Mix} :
    (∀ constraint ∈ constraints, (constraint.verdict mix).Succeeds surroundings) ↔
      ∀ given ∈ linear, ∃ verdict, given.holds mix.values = .ok verdict := by
  induction asked with
  | nil => exact iff_of_true (List.forall_mem_nil _) (List.forall_mem_nil _)
  | cons here _ inductionHypothesis =>
      rw [List.forall_mem_cons, List.forall_mem_cons, inductionHypothesis,
        succeeds_verdict_iff here]

theorem succeeds_questions_iff (asked : AreAsked problem.constraints constraints)
    {mixes : List Mix} :
    (Action.each Question.ask
        ((Sampler.mk problem.toProblem constraints).questions mixes)).Succeeds surroundings ↔
      ∀ mix ∈ mixes, ∀ given ∈ problem.constraints,
        ∃ verdict, given.holds mix.values = .ok verdict := by
  have keeps : ∀ question ∈ (Sampler.mk problem.toProblem constraints).questions mixes,
      question.ask.Keeps := by
    intro question member
    have inConstraints := List.mem_of_getElem? (Sampler.mem_questions_iff.mp member).2
    exact Sampler.keeps_verdict
      ((isPure_sampler asked).predicate _ inConstraints question.candidate)
  have perMix : ∀ mix, (∀ given ∈ problem.constraints,
      ∃ verdict, given.holds mix.values = .ok verdict) ↔
        ∀ constraint ∈ constraints, (constraint.verdict mix).Succeeds surroundings :=
    fun mix => asked.forall_verdict_iff.symm
  simp only [Action.succeeds_each_iff keeps, perMix]
  constructor
  · intro succeeds mix inMixes constraint inConstraints
    obtain ⟨position, here⟩ := List.mem_iff_getElem?.mp inConstraints
    exact succeeds ⟨constraint, position, mix⟩ (Sampler.mem_questions_iff.mpr ⟨inMixes, here⟩)
  · intro succeeds question member
    obtain ⟨inMixes, here⟩ := Sampler.mem_questions_iff.mp member
    exact succeeds question.candidate inMixes question.constraint (List.mem_of_getElem? here)

theorem exists_number_of_draw {before after : Generator × σ} {mix : Mix}
    (drawn : problem.draw before = .ok mix after) : ∃ number, mix.goal.number? = some number := by
  obtain ⟨_, _, _, drawn⟩ := Action.bind_eq_ok_iff.mp drawn
  obtain ⟨point, _, _, drawn⟩ := Action.bind_eq_ok_iff.mp drawn
  obtain ⟨mixed, _⟩ := Action.ofExcept_eq_ok_iff.mp drawn
  obtain ⟨goal, summed, same⟩ := except_bind_eq_ok_iff.mp mixed
  cases same
  unfold LinearProblem.goal at summed
  cases sum : Value.dot problem.objective (point.map .int) with
  | ok total =>
      rw [sum] at summed
      cases summed
      exact ⟨total, Value.number?_ofNumber total⟩
  | error fault =>
      rw [sum] at summed
      cases summed

theorem succeeds_best {entries : List (Validated Mix)}
    (numeric : ∀ entry ∈ entries, problem.selector.IsNumeric entry) (worker : Option Int) :
    ((Sampler.mk problem.toProblem constraints).best (entries.map some) worker).Succeeds
      surroundings := by
  unfold Sampler.best
  split
  · exact Action.succeeds_pure none surroundings
  · have inBatch : ∀ entry, some entry ∈ entries.map some → entry.isValid = true →
        problem.selector.IsNumeric entry := by
      intro entry member _
      obtain ⟨_, present, same⟩ := List.mem_map.mp member
      cases same
      exact numeric entry present
    obtain ⟨best, picked, _⟩ := Selector.exists_isUnbeatenIn_of_pick inBatch
    exact Action.succeeds_inPhase_iff.mpr (Action.succeeds_ofExcept_iff.mpr ⟨best, picked⟩)

theorem isNumeric_of_mem_judged {count : Nat} {mixes : List Mix} {start last : Generator × σ}
    (draws : (Sampler.mk problem.toProblem constraints).Draws count start mixes last)
    {verdicts : List Bool} :
    ∀ entry ∈ (Sampler.mk problem.toProblem constraints).judged mixes verdicts,
      problem.selector.IsNumeric entry := by
  intro entry member
  have numbers := Action.Returns.forall_mem draws fun _ _ _ _ drawn => exists_number_of_draw drawn
  obtain ⟨number, isNumber⟩ := numbers _ (Validated.candidate_mem_of_mem_ofVerdicts member)
  exact ⟨_, number, rfl, isNumber⟩

theorem forall_evaluates_iff {mixes : List Mix} {points : List (List Int)}
    (mixed : List.Forall₂ (fun mix point => problem.mixOf (point.map .int) = .ok mix) mixes
      points) :
    (∀ mix ∈ mixes, ∀ given ∈ problem.constraints,
        ∃ verdict, given.holds mix.values = .ok verdict) ↔
      ∀ point ∈ points, problem.Evaluates point := by
  induction mixed with
  | nil => exact iff_of_true (List.forall_mem_nil _) (List.forall_mem_nil _)
  | @cons mix point mixes points here _ inductionHypothesis =>
      rw [List.forall_mem_cons, List.forall_mem_cons, inductionHypothesis]
      have values : mix.values = point.map .int := by
        obtain ⟨goal, _, same⟩ := except_bind_eq_ok_iff.mp here
        cases same
        rfl
      rw [values]
      exact and_congr_left fun _ =>
        ⟨fun verdicts => ⟨⟨mix, here⟩, verdicts⟩, fun evaluates => evaluates.verdicts⟩

theorem isNumeric_of_pass {samples : Nat} {worker : Option Int} {keep : Bool}
    {start last : Generator × σ} {outcome : Outcome Mix}
    (returned : (Sampler.mk problem.toProblem constraints).pass (.int samples) worker keep start =
      .ok outcome last) :
    ∀ entry, outcome.best = some entry → problem.selector.IsNumeric entry := by
  intro entry best
  obtain ⟨mixes, _, _, verdicts, _, _, _, draws, _, selected, rfl, _⟩ :=
    Sampler.pass_eq_ok_iff.mp returned
  cases best
  have picked := Sampler.pick_of_best (fun _ => rfl) selected
  obtain ⟨member, _⟩ := problem.selector.pick_mem picked
  obtain ⟨_, present, same⟩ := List.mem_map.mp member
  cases same
  exact isNumeric_of_mem_judged draws entry present

/-- A pass with samples returns exactly if the limits can be drawn and all points that are drawn
have goals and verdicts. -/
theorem succeeds_pass_iff (asked : AreAsked problem.constraints constraints) {samples : Nat}
    {worker : Option Int} {keep : Bool} (positive : samples ≠ 0) :
    ((Sampler.mk problem.toProblem constraints).pass (.int samples) worker keep).Succeeds
        (generator, surroundings) ↔
      problem.FitsWords ∧ ∀ point ∈ problem.points samples generator, problem.Evaluates point := by
  constructor
  · rintro ⟨outcome, last, returned⟩
    obtain ⟨mixes, moved, middle, verdicts, _, _, _, draws, answered, _⟩ :=
      Sampler.pass_eq_ok_iff.mp returned
    have fits : problem.FitsWords := by
      by_contra notFits
      -- The first draw would fail already.
      obtain ⟨samples, rfl⟩ := Nat.exists_eq_succ_of_ne_zero positive
      cases draws with
      | cons drawn _ =>
          cases checked : problem.checkBox with
          | ok => exact notFits (checkBox_eq_ok_iff.mp checked)
          | error fault =>
              change problem.draw _ = _ at drawn
              rw [draw_of_checkBox_error checked] at drawn
              cases drawn
    obtain ⟨mixed, _⟩ := (draws_iff fits).mp draws
    have judged := (succeeds_questions_iff asked).mp ⟨verdicts, _, answered⟩
    exact ⟨fits, (forall_evaluates_iff mixed).mp judged⟩
  · rintro ⟨fits, evaluates⟩
    obtain ⟨mixes, mixed⟩ :=
      Sampler.exists_forall₂ fun point member => (evaluates point member).goal
    have draws : (Sampler.mk problem.toProblem constraints).Draws samples
        (generator, surroundings) mixes
        ((generator.drawBoxes problem.lower problem.upper samples).2, surroundings) :=
      (draws_iff fits).mpr ⟨mixed.flip, rfl⟩
    have judged := (forall_evaluates_iff mixed.flip).mpr evaluates
    obtain ⟨verdicts, middle, answered⟩ := (succeeds_questions_iff asked).mpr judged
    obtain ⟨best, after, selected⟩ := succeeds_best (isNumeric_of_mem_judged draws) worker
    exact ⟨_, _, Sampler.pass_eq_ok_iff.mpr ⟨mixes, _, _, verdicts, middle, best, after, draws,
      answered, selected, rfl, rfl⟩⟩

end LinearProblem

/-! ## Problems that have been read -/

namespace LinearConstraint

theorem name_of_make {name coefficients bound sense : Value} {made : LinearConstraint}
    (makes : make name coefficients bound sense = .ok made) : made.name = name := by
  obtain ⟨_, _, makes⟩ := except_bind_eq_ok_iff.mp makes
  split at makes
  · split at makes
    · obtain ⟨_, _, makes⟩ := except_bind_eq_ok_iff.mp makes
      obtain ⟨_, _, same⟩ := except_bind_eq_ok_iff.mp makes
      cases same
      rfl
    · cases makes
  · cases makes

theorem exists_name_of_ofValuesFrom {position : Nat} {items : List Value}
    {linear : List LinearConstraint} (read : ofValuesFrom position items = .ok linear) :
    ∀ given ∈ linear, ∃ name, given.name = .str name := by
  induction items generalizing position linear with
  | nil =>
      cases read
      intro given member
      cases member
  | cons item rest inductionHypothesis =>
      obtain ⟨first, made, read⟩ := except_bind_eq_ok_iff.mp read
      obtain ⟨others, later, same⟩ := except_bind_eq_ok_iff.mp read
      cases same
      refine List.forall_mem_cons.mpr ⟨?_, inductionHypothesis later⟩
      unfold ofValue at made
      simp only [except_bind_eq_ok_iff] at made
      obtain ⟨_, _, name, _, _, _, _, _, _, _, _, _, made⟩ := made
      exact ⟨name, name_of_make made⟩

end LinearConstraint

namespace LinearProblem

variable {problem : LinearProblem}

theorem exists_toConstraintsFrom {linear : List LinearConstraint}
    (named : ∀ given ∈ linear, ∃ name, given.name = .str name) (position : Nat) :
    ∃ constraints : List (Constraint σ Mix),
      ConstraintItem.toConstraintsFrom position (linear.map constraintItem) = .ok constraints := by
  induction linear generalizing position with
  | nil => exact ⟨[], rfl⟩
  | cons given rest inductionHypothesis =>
      obtain ⟨⟨name, same⟩, restNamed⟩ := List.forall_mem_cons.mp named
      obtain ⟨others, later⟩ := inductionHypothesis restNamed (position + 1)
      have shown : ∃ text, ConstraintItem.bareName position (some given.name) none = .ok text := by
        rw [same]
        unfold ConstraintItem.bareName
        by_cases given : (Value.str name).truthy = true
        · simp only [Option.getD_some, given, if_true]
          split
          · exact ⟨name, rfl⟩
          · exact ⟨_, rfl⟩
        · simp only [Option.getD_some, given]
          exact ⟨_, rfl⟩
      obtain ⟨text, shown⟩ := shown
      refine ⟨⟨text, predicate given⟩ :: others, ?_⟩
      refine except_bind_eq_ok_iff.mpr ⟨⟨text, predicate given⟩, ?_, ?_⟩
      · exact except_bind_eq_ok_iff.mpr ⟨text, shown, rfl⟩
      · exact except_bind_eq_ok_iff.mpr ⟨others, later, rfl⟩

theorem exists_name_of_draft {data : Value} {draft : LinearDraft}
    (read : LinearDraft.ofValue data = .ok draft) :
    ∀ given ∈ draft.constraints, ∃ name, given.name = .str name := by
  unfold LinearDraft.ofValue at read
  obtain ⟨entries, _, read⟩ := except_bind_eq_ok_iff.mp read
  have listed : ∃ items, LinearConstraint.ofValuesFrom 0 items = .ok draft.constraints := by
    -- With or without constraints, what follows is the same.
    dsimp only at read
    split at read
    all_goals
      obtain ⟨items, _, read⟩ := except_bind_eq_ok_iff.mp read
      obtain ⟨constraints, listed, read⟩ := except_bind_eq_ok_iff.mp read
      simp only [except_bind_eq_ok_iff] at read
      obtain ⟨_, _, _, _, _, _, _, _, _, _, _, _, _, _, same⟩ := read
      cases same
      exact ⟨items, listed⟩
  obtain ⟨items, listed⟩ := listed
  exact LinearConstraint.exists_name_of_ofValuesFrom listed

/-- A problem is read of a definition exactly if it passes the checks on what is read. -/
theorem ofValue_eq_ok_iff_draft {data : Value} :
    ofValue data = .ok problem ↔
      ∃ draft, LinearDraft.ofValue data = .ok draft ∧ draft.toProblem = .ok problem := by
  rw [← except_bind_eq_ok_iff]
  unfold ofValue
  cases LinearDraft.ofValue data >>= LinearDraft.toProblem with
  | ok present => exact Iff.rfl
  | error fault => simp

theorem of_ofValue {data : Value} (read : ofValue data = .ok problem) :
    problem.IsWellFormed ∧ ∀ given ∈ problem.constraints, ∃ name, given.name = .str name := by
  obtain ⟨draft, drafted, made⟩ := ofValue_eq_ok_iff_draft.mp read
  obtain ⟨_, passes⟩ := LinearDraft.exists_passes_of_toProblem made
  refine ⟨LinearDraft.isWellFormed_of_toProblem made, ?_⟩
  rw [passes.constraints]
  exact exists_name_of_draft drafted

theorem points_ne_nil (problem : LinearProblem) {samples : Nat} (positive : samples ≠ 0)
    (generator : Generator) : ∃ point, point ∈ problem.points samples generator := by
  obtain ⟨samples, rfl⟩ := Nat.exists_eq_succ_of_ne_zero positive
  exact ⟨_, List.mem_cons_self⟩

theorem forall_evaluates_points_iff (formed : problem.IsWellFormed) {samples : Nat}
    (positive : samples ≠ 0) {children : List SeedSequence} (some : children ≠ []) :
    (∀ child ∈ children, ∀ point ∈ problem.points samples (Generator.ofSequence child),
        problem.Evaluates point) ↔
      problem.IsNumeric ∧
        ∀ child ∈ children, ∀ point ∈ problem.points samples (Generator.ofSequence child),
          ¬ problem.Overflows point := by
  have evaluates : ∀ (child : SeedSequence) (point : List Int),
      point ∈ problem.points samples (Generator.ofSequence child) →
        (problem.Evaluates point ↔ problem.IsNumeric ∧ ¬ problem.Overflows point) := by
    intro child point member
    have count := Generator.length_of_mem_drawBoxes formed.ranges.length_eq member
    exact evaluates_iff formed (count.trans formed.lower)
  constructor
  · intro all
    obtain ⟨first, inChildren⟩ := List.exists_mem_of_ne_nil children some
    obtain ⟨point, member⟩ := problem.points_ne_nil positive (Generator.ofSequence first)
    refine ⟨((evaluates first point member).mp (all first inChildren point member)).1, ?_⟩
    intro child inChildren point member
    exact ((evaluates child point member).mp (all child inChildren point member)).2
  · rintro ⟨numeric, calm⟩ child inChildren point member
    exact (evaluates child point member).mpr ⟨numeric, calm child inChildren point member⟩

/-- The passes of some workers all return exactly if they draw nothing, or the limits can be drawn,
all that must be is a number, and nothing overflows. -/
theorem forall_succeeds_pass_iff (formed : problem.IsWellFormed)
    {constraints : List (Constraint σ Mix)} (asked : AreAsked problem.constraints constraints)
    {samples : Nat} {worker : Option Int} {keep : Bool} {children : List SeedSequence}
    (some : children ≠ []) {surroundings : σ} :
    (∀ child ∈ children,
        ((Sampler.mk problem.toProblem constraints).pass (.int samples) worker keep).Succeeds
          (Generator.ofSequence child, surroundings)) ↔
      samples = 0 ∨
        (problem.FitsWords ∧ problem.IsNumeric ∧
          ∀ child ∈ children, ∀ point ∈ problem.points samples (Generator.ofSequence child),
            ¬ problem.Overflows point) := by
  by_cases none : samples = 0
  · refine iff_of_true (fun child _ => ?_) (Or.inl none)
    exact ⟨_, _, (Sampler.Course.empty none).pass_eq⟩
  · rw [or_iff_right none, ← forall_evaluates_points_iff formed none some]
    simp only [succeeds_pass_iff asked none]
    constructor
    · intro all
      obtain ⟨first, member⟩ := List.exists_mem_of_ne_nil _ some
      exact ⟨(all first member).1, fun child inChildren => (all child inChildren).2⟩
    · rintro ⟨fits, all⟩ child member
      exact ⟨fits, all child member⟩

/-- A parallel search for the optimum of a problem that has been read returns exactly if nothing is
to be drawn, or all limits have at most sixty-four bits, all weights, coefficients and ordered
bounds are numbers, and at no point that a worker draws a sum needs an integer as a float that is
too large for one.  Otherwise workers fail, and the session is what it was. -/
theorem searchParallelOn_of_ofValue {data : Value} {problem : LinearProblem}
    (read : ofValue data = .ok problem) (samples workers seed : Nat) {dispatch : Dispatch}
    (runs : dispatch.RunsAll workers) {threads : Value} (allowed : checkThreads threads = .ok ())
    {session : Session σ Mix} (seeded : session.seed = .value (.int seed)) :
    ∃ (constraints : List (Constraint σ Mix)) (children : List SeedSequence),
      problem.namedConstraints = .ok constraints ∧
      session.seed.spawn workers = .ok (children, session.seed) ∧
      (((Sampler.mk problem.toProblem constraints).searchParallelOn (.int samples) (.int workers)
          threads dispatch).Succeeds session ↔
        samples = 0 ∨ workers = 0 ∨
          (problem.FitsWords ∧ problem.IsNumeric ∧
            ∀ child ∈ children, ∀ point ∈ problem.points samples (Generator.ofSequence child),
              ¬ problem.Overflows point)) ∧
      ∀ fault last,
        (Sampler.mk problem.toProblem constraints).searchParallelOn (.int samples) (.int workers)
            threads dispatch session = .error fault last →
          fault.kind = .parallelSearchError ∧ last = session := by
  obtain ⟨formed, texts⟩ := of_ofValue read
  obtain ⟨constraints, named⟩ := exists_toConstraintsFrom texts 0
  have asked := areAsked_of_toConstraintsFrom named
  refine ⟨constraints, ((SeedSequence.ofNat seed).spawn workers).1, named, ?_, ?_⟩
  · rw [seeded, Seed.spawn_natCast]
  rcases Nat.eq_zero_or_pos workers with rfl | positive
  · have ran := (Sampler.mk problem.toProblem constraints).searchParallelBy_of_accepted
      (acceptedWorkers_natCast samples 0 allowed)
      ((Sampler.mk problem.toProblem constraints).carryOut dispatch (.int samples)) session
    rw [if_pos rfl] at ran
    refine ⟨iff_of_true ⟨none, session, ran⟩ (Or.inr (Or.inl rfl)), fun fault last failed => ?_⟩
    cases ran.symm.trans failed
  · obtain ⟨returns, fails⟩ := @Sampler.succeeds_searchParallelOn_iff _ _ _ samples workers seed
      session dispatch threads problem.selector.IsNumeric (isPure_sampler asked)
      (fun child outcome last returned => isNumeric_of_pass returned)
      (fun winners numeric => succeeds_best numeric none) runs positive allowed seeded
    have some : ((SeedSequence.ofNat seed).spawn workers).1 ≠ [] := by
      intro nothing
      have count := (SeedSequence.ofNat seed).length_spawn workers
      rw [nothing] at count
      exact positive.ne count
    rw [returns, forall_succeeds_pass_iff formed asked some, or_iff_right positive.ne']
    exact ⟨Iff.rfl, fails⟩

/-- A definition of a problem with one variable, of which nothing is asked. -/
def definition (weight lower upper : Value) : Value :=
  .map [(.str "variables", .list [.str "x1"]), (.str "objective", .list [weight]),
    (.str "lower", lower), (.str "upper", upper)]

/-- The problem that is so defined. -/
def defined (weight : Value) (lower upper : Int) : LinearProblem :=
  ⟨[.str "x1"], [weight], [lower], [upper], [], .maximise⟩

/-- A search for one sample by one worker. -/
def searchOnce (problem : LinearProblem) (constraints : List (Constraint Unit Mix)) :
    Action (Session Unit Mix) (Option (Validated Mix)) :=
  (Sampler.mk problem.toProblem constraints).searchParallelOn (.int 1) (.int 1) .null
    (.whole fun _ => .runs)

/-- The session of such a search. -/
def sessionOnce : Session Unit Mix :=
  ⟨.value (.int 7), none, some [], ()⟩

theorem searchParallelOn_of_ofValue_definition :
    (∃ constraints, (defined (.int 3) 0 9).namedConstraints = .ok constraints ∧
      ((defined (.int 3) 0 9).searchOnce constraints).Succeeds sessionOnce) ∧
    ∃ constraints, (defined (.int 3) 0 0x8000000000000000).namedConstraints = .ok constraints ∧
      ¬ ((defined (.int 3) 0 0x8000000000000000).searchOnce constraints).Succeeds sessionOnce := by
  have runs : Dispatch.RunsAll 1 (.whole fun _ => .runs) := fun _ _ => Or.inl rfl
  constructor
  · obtain ⟨constraints, _, named, _, returns, _⟩ := @searchParallelOn_of_ofValue Unit
      (definition (.int 3) (.int 0) (.int 9)) (defined (.int 3) 0 9) rfl 1 1 7 _ runs .null rfl
      sessionOnce rfl
    refine ⟨constraints, named, returns.mpr (Or.inr (Or.inr ⟨⟨by decide, by decide⟩, ?_, ?_⟩))⟩
    · refine ⟨fun weight member => ?_, fun given member => by cases member⟩
      cases List.mem_singleton.mp member
      exact ⟨_, rfl⟩
    · have integers : ∀ weight ∈ (defined (.int 3) 0 9).objective, weight.IsInteger := by
        intro weight member
        cases List.mem_singleton.mp member
        exact ⟨3, rfl⟩
      rintro _ _ point _ (overflows | ⟨given, member, _⟩)
      · cases (Value.dot_of_isInteger integers point).symm.trans overflows
      · cases member
  · obtain ⟨constraints, _, named, _, returns, _⟩ := @searchParallelOn_of_ofValue Unit
      (definition (.int 3) (.int 0) (.int 0x8000000000000000))
      (defined (.int 3) 0 0x8000000000000000) rfl 1 1 7 _ runs .null rfl sessionOnce rfl
    refine ⟨constraints, named, fun succeeds => ?_⟩
    rcases returns.mp succeeds with none | idle | ⟨fits, _⟩
    · cases none
    · cases idle
    · exact absurd (fits.upper _ List.mem_cons_self) (by decide)

/-- A definition is accepted, and then workers fail because of it. -/
def FailsLate (data : Value) : Prop :=
  ∃ problem constraints fault last, ofValue data = .ok problem ∧
    problem.namedConstraints = .ok constraints ∧
    problem.searchOnce constraints sessionOnce = .error fault last ∧
    fault.kind = .parallelSearchError

/-- A limit of more than sixty-four bits is accepted, and so is a weight that is a text. -/
theorem failsLate_of_definition :
    FailsLate (definition (.int 1) (.int 0) (.int 0x8000000000000000)) ∧
      FailsLate (definition (.str "a") (.int 1) (.int 1)) :=
  ⟨⟨defined (.int 1) 0 0x8000000000000000, [], _, _, rfl, rfl, rfl, rfl⟩,
    ⟨defined (.str "a") 1 1, [], _, _, rfl, rfl, rfl, rfl⟩⟩

end LinearProblem

end RandomSearch
