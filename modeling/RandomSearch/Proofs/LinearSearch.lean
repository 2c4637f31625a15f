import RandomSearch.Linear.ProductMix
import RandomSearch.Proofs.Linear
import RandomSearch.Proofs.Reduction
import RandomSearch.Proofs.Totality

/-!
# Linear searches

A parallel search for the optimum of a linear problem over integers returns for every seed and every
budget.  Every draw gives a point of the box with the right goal and the right verdict, and the
winner is optimal among the points drawn that satisfy all constraints.
-/

namespace RandomSearch

variable {σ : Type}

theorem Generator.forall₂_drawBox {lowers uppers : List Int}
    (ranges : List.Forall₂ (· ≤ ·) lowers uppers) (generator : Generator) :
    List.Forall₂ (· ≤ ·) lowers (generator.drawBox lowers uppers).1 ∧
      List.Forall₂ (· ≤ ·) (generator.drawBox lowers uppers).1 uppers := by
  induction ranges generalizing generator with
  | nil => exact ⟨.nil, .nil⟩
  | cons ordered _ inductionHypothesis =>
      obtain ⟨above, below⟩ := inductionHypothesis (generator.drawBetween _ _).2
      exact ⟨.cons (lower_le_drawBetween _ _ generator) above,
        .cons (drawBetween_le_upper ordered generator) below⟩

namespace LinearProblem

variable {problem : LinearProblem}

/-- A problem with integers as its weights, coefficients and bounds. -/
structure IsIntegral (problem : LinearProblem) : Prop where
  objective : ∀ weight ∈ problem.objective, weight.IsInteger
  constraints : ∀ constraint ∈ problem.constraints, constraint.IsIntegral

/-- Whether a point satisfies all constraints. -/
def Allows (problem : LinearProblem) (point : List Int) : Prop :=
  ∀ constraint ∈ problem.constraints, constraint.Allows point

/-- The goal of a point. -/
def total (problem : LinearProblem) (point : List Int) : Int :=
  Value.weightedTotal problem.objective point

/-- A mix that stands for a point of the box, with a coordinate for each variable. -/
structure Draws (problem : LinearProblem) (mix : Mix) (point : List Int) : Prop where
  values : mix.values = point.map .int
  count : point.length = problem.names.length
  aboveLower : List.Forall₂ (· ≤ ·) problem.lower point
  belowUpper : List.Forall₂ (· ≤ ·) point problem.upper
  goal : mix.goal = .int (problem.total point)

/-- A judged mix that stands for a point of the box. -/
structure Shows (problem : LinearProblem) (entry : Validated Mix) (point : List Int) : Prop where
  draws : problem.Draws entry.candidate point
  isValid : entry.isValid = true ↔ problem.Allows point

/-! ## Draws and verdicts -/

theorem checkBox_eq_ok (lowerFits : ∀ limit ∈ problem.lower, fitsWord limit = true)
    (upperFits : ∀ limit ∈ problem.upper, fitsWord limit = true) : problem.checkBox = .ok () := by
  unfold checkBox
  rw [List.all_eq_true.mpr lowerFits, List.all_eq_true.mpr upperFits]
  rfl

theorem mixOf_eq_ok (integers : ∀ weight ∈ problem.objective, weight.IsInteger)
    (point : List Int) :
    problem.mixOf (point.map .int) =
      .ok ⟨point.map .int, .int (problem.total point), problem.names⟩ := by
  unfold mixOf LinearProblem.goal
  rw [Value.dot_of_isInteger integers]
  rfl

theorem values_of_mixOf {values : List Value} {mix : Mix}
    (made : problem.mixOf values = .ok mix) : mix.values = values := by
  obtain ⟨_, _, same⟩ := except_bind_eq_ok_iff.mp made
  cases same
  rfl

/-- A draw from a box that can be drawn from draws a point and makes a mix of it. -/
theorem draw_of_checkBox (checked : problem.checkBox = .ok ()) (generator : Generator)
    (surroundings : σ) :
    problem.draw (generator, surroundings) =
      match problem.mixOf ((generator.drawBox problem.lower problem.upper).1.map .int) with
      | .ok mix => .ok mix ((generator.drawBox problem.lower problem.upper).2, surroundings)
      | .error fault =>
          .error fault ((generator.drawBox problem.lower problem.upper).2, surroundings) := by
  unfold draw
  rw [checked, Action.ofExcept_ok, pure_bind, Action.bind_apply]
  simp only [Action.onFirst, Action.step]
  cases problem.mixOf ((generator.drawBox problem.lower problem.upper).1.map .int) with
  | ok mix => rfl
  | error fault => rfl

/-- Every draw gives a point of the box. -/
theorem yields_draw (formed : problem.IsWellFormed) (integral : problem.IsIntegral)
    (lowerFits : ∀ limit ∈ problem.lower, fitsWord limit = true)
    (upperFits : ∀ limit ∈ problem.upper, fitsWord limit = true) :
    (problem.draw : Action (Generator × σ) Mix).Yields fun mix =>
      ∃ point, problem.Draws mix point := by
  rintro ⟨generator, surroundings⟩
  let drawn := generator.drawBox problem.lower problem.upper
  obtain ⟨above, below⟩ := generator.forall₂_drawBox formed.ranges
  refine ⟨⟨drawn.1.map .int, .int (problem.total drawn.1), problem.names⟩,
    (drawn.2, surroundings), ?_, drawn.1, rfl, ?_, above, below, rfl⟩
  · rw [draw_of_checkBox (checkBox_eq_ok lowerFits upperFits), mixOf_eq_ok integral.objective]
  · exact above.length_eq.symm.trans formed.lower

/-- The constraints ask the given linear ones, in this order. -/
def AreAsked (linear : List LinearConstraint) (constraints : List (Constraint σ Mix)) : Prop :=
  List.Forall₂ (fun given constraint => constraint.predicate = predicate given) linear constraints

theorem areAsked_of_toConstraintsFrom {linear : List LinearConstraint} {position : Nat}
    {constraints : List (Constraint σ Mix)}
    (named : ConstraintItem.toConstraintsFrom position (linear.map constraintItem) =
      .ok constraints) :
    AreAsked linear constraints := by
  induction linear generalizing position constraints with
  | nil =>
      cases named
      exact .nil
  | cons given rest inductionHypothesis =>
      obtain ⟨constraint, first, named⟩ := except_bind_eq_ok_iff.mp named
      obtain ⟨others, later, same⟩ := except_bind_eq_ok_iff.mp named
      obtain ⟨shown, _, made⟩ := except_bind_eq_ok_iff.mp first
      cases same
      cases made
      exact .cons rfl (inductionHypothesis later)

/-- The verdicts on a point are those of integer arithmetic. -/
theorem verdicts_eq_pure {linear : List LinearConstraint} {constraints : List (Constraint σ Mix)}
    (asked : AreAsked linear constraints)
    (integral : ∀ given ∈ linear, given.IsIntegral) {mix : Mix} {point : List Int}
    (values : mix.values = point.map .int) :
    Constraint.verdicts mix constraints =
      pure (linear.map fun given => decide (given.Allows point)) := by
  induction asked with
  | nil => rfl
  | @cons given constraint linear constraints here _ inductionHypothesis =>
      obtain ⟨first, others⟩ := List.forall_mem_cons.mp integral
      have verdict : constraint.verdict mix = pure (decide (given.Allows point)) := by
        funext surroundings
        unfold Constraint.verdict
        rw [here]
        unfold predicate
        rw [values, first.holds point]
        rfl
      unfold Constraint.verdicts
      rw [verdict, inductionHypothesis others, pure_bind, pure_bind]
      rfl

/-- Judging a point of the box gives it the right verdict. -/
theorem yields_validate {constraints : List (Constraint σ Mix)}
    (asked : AreAsked problem.constraints constraints)
    (integral : problem.IsIntegral) {mix : Mix} (drawn : ∃ point, problem.Draws mix point) :
    (Constraint.validate constraints mix).Yields fun entry =>
      ∃ point, problem.Shows entry point := by
  obtain ⟨point, draws⟩ := drawn
  unfold Constraint.validate
  rw [verdicts_eq_pure asked integral.constraints draws.values, pure_bind]
  refine Action.yields_pure ⟨point, draws, ?_⟩
  unfold Validated.isValid Allows
  rw [List.map_map, List.all_map, List.all_eq_true]
  exact forall₂_congr fun given _ => decide_eq_true_iff

theorem Shows.hasNumber {entry : Validated Mix} {point : List Int}
    (shows : problem.Shows entry point) : problem.selector.HasNumber entry := by
  refine ⟨entry.candidate.goal, .int (problem.total point), rfl, ?_, ?_⟩
  · rw [shows.draws.goal]
    rfl
  · intro undefined
    cases undefined

theorem Shows.rank {entry : Validated Mix} {point : List Int} (shows : problem.Shows entry point) :
    problem.selector.rank entry = Rank.ofInt (problem.total point) := by
  have rank : (Value.int (problem.total point)).rank? = some (Rank.ofInt (problem.total point)) :=
    Value.rank?_of_int rfl
  unfold Selector.rank selector
  simp only [shows.draws.goal, rank, Option.getD_some]

theorem Shows.beats_iff {entry other : Validated Mix} {point place : List Int}
    (shows : problem.Shows entry point) (otherShows : problem.Shows other place) :
    problem.selector.Beats entry other ↔
      problem.direction.Better (problem.total point) (problem.total place) := by
  rw [Selector.beats_iff shows.hasNumber otherShows.hasNumber, shows.rank, otherShows.rank]
  exact Direction.better_ofInt problem.direction _ _

/-! ## Searches -/

theorem isPure_sampler {constraints : List (Constraint σ Mix)}
    (asked : AreAsked problem.constraints constraints) :
    (Sampler.mk problem.toProblem constraints).IsPure where
  draw := by
    refine (Action.keeps_ofExcept problem.checkBox).keepsSecond.bind fun _ => ?_
    refine (Action.keepsSecond_onFirst _).bind fun drawn => ?_
    exact (Action.keeps_ofExcept (problem.mixOf (drawn.map .int))).keepsSecond
  predicate constraint member candidate := by
    obtain ⟨position, found⟩ := List.mem_iff_getElem.mp member
    obtain ⟨inside, rfl⟩ := found
    have here := asked.get (asked.length_eq.symm ▸ inside) inside
    simp only [List.get_eq_getElem] at here
    rw [here]
    exact Action.keeps_ofExcept _
  select _ := Action.keeps_ofExcept _

theorem serves_sampler {constraints : List (Constraint σ Mix)}
    (asked : AreAsked problem.constraints constraints)
    (formed : problem.IsWellFormed) (integral : problem.IsIntegral)
    (lowerFits : ∀ limit ∈ problem.lower, fitsWord limit = true)
    (upperFits : ∀ limit ∈ problem.upper, fitsWord limit = true) :
    (Sampler.mk problem.toProblem constraints).Serves
      (fun mix => ∃ point, problem.Draws mix point)
      (fun entry => ∃ point, problem.Shows entry point) where
  draw := yields_draw formed integral lowerFits upperFits
  validate _ drawn := yields_validate asked integral drawn
  select batch entries := by
    have picked := Selector.pick_of_hasNumber fun entry member _ =>
      (entries entry member).elim fun point shows => shows.hasNumber
    intro before
    refine ⟨problem.selector.leader batch, before, ?_, fun entry leads => ?_⟩
    · exact Action.ofExcept_eq_ok_iff.mpr ⟨picked, rfl⟩
    · exact entries entry (Selector.mem_of_leader leads).1

/-- A parallel search for the optimum of a linear problem over integers returns, and adds one entry
to the history for every draw, which shows a point of the box with its goal and its verdict.  It
finds nothing exactly if no entry satisfies all constraints; otherwise it finds an entry that does,
and none of those that do has a strictly better goal. -/
theorem searchParallelOn_sound_optimal {draft : LinearDraft} {problem : LinearProblem}
    (made : draft.toProblem = .ok problem) (integral : problem.IsIntegral)
    (lowerFits : ∀ limit ∈ problem.lower, fitsWord limit = true)
    (upperFits : ∀ limit ∈ problem.upper, fitsWord limit = true)
    {constraints : List (Constraint σ Mix)} (named : problem.namedConstraints = .ok constraints)
    {dispatch : Dispatch} {samples workers seed : Nat} (runs : dispatch.RunsAll workers)
    {threads : Value} (allowed : checkThreads threads = .ok ()) {session : Session σ Mix}
    (seeded : session.seed = .value (.int seed)) {earlier : List (Validated Mix)}
    (kept : session.history = some earlier) :
    ∃ winner appended,
      (Sampler.mk problem.toProblem constraints).searchParallelOn (.int samples) (.int workers)
          threads dispatch session =
        .ok winner { session with history := some (earlier ++ appended) } ∧
      appended.length = samples * workers ∧
      (∀ entry ∈ appended, ∃ point, problem.Shows entry point) ∧
      (winner = none ↔
        ∀ entry ∈ appended, ∀ point, problem.Shows entry point → ¬ problem.Allows point) ∧
      ∀ best, winner = some best → best ∈ appended ∧
        ∃ point, problem.Shows best point ∧ problem.Allows point ∧
          ∀ entry ∈ appended, ∀ other, problem.Shows entry other → problem.Allows other →
            ¬ problem.direction.Better (problem.total other) (problem.total point) := by
  have asked := areAsked_of_toConstraintsFrom named
  have formed := LinearDraft.isWellFormed_of_toProblem made
  obtain ⟨winner, appended, returned, count, entries⟩ := Sampler.exists_searchParallelOn_eq_ok
    (isPure_sampler asked) (serves_sampler asked formed integral lowerFits upperFits) runs allowed
    seeded kept
  have leads : winner = problem.selector.leader appended := by
    obtain ⟨_, history, leads⟩ := Sampler.pick_of_searchParallelOn (fun _ => rfl) returned kept
    cases List.append_cancel_left (Option.some.inj history)
    exact leads fun entry member _ => (entries entry member).elim fun _ shows => shows.hasNumber
  refine ⟨winner, appended, returned, count, entries, ?_, fun best found => ?_⟩
  · rw [leads, Selector.leader_eq_none_iff]
    constructor
    · intro none entry member point shows allows
      have contradiction := none entry member
      rw [shows.isValid.mpr allows] at contradiction
      cases contradiction
    · intro none entry member
      obtain ⟨point, shows⟩ := entries entry member
      refine Bool.eq_false_iff.mpr fun valid => ?_
      exact none entry member point shows (shows.isValid.mp valid)
  · rw [leads] at found
    obtain ⟨member, valid⟩ := Selector.mem_of_leader found
    obtain ⟨point, shows⟩ := entries best member
    obtain ⟨position, first⟩ := Selector.exists_isFirstBest_of_leader
      (fun entry present _ => (entries entry present).elim fun _ shown => shown.hasNumber) found
    refine ⟨member, point, shows, shows.isValid.mp valid, ?_⟩
    intro entry present other shown allows better
    have beats := (shown.beats_iff shows).mpr better
    exact first.unbeaten entry present (shown.isValid.mpr allows) beats

/-- The product mix before it is checked. -/
def productMixDraft : LinearDraft where
  names := .list productMix.names
  objective := .list productMix.objective
  lower := .int 1
  upper := .list [.int 174, .int 174]
  constraints := productMix.constraints
  direction := .str "max"

theorem isIntegral_productMix : productMix.IsIntegral := by
  have integers : ∀ numbers : List Int, ∀ value ∈ numbers.map Value.int, value.IsInteger := by
    intro numbers value member
    obtain ⟨n, _, rfl⟩ := List.mem_map.mp member
    exact ⟨n, rfl⟩
  refine ⟨integers [350, 300], fun constraint member => ?_⟩
  simp only [productMix, List.mem_cons, List.not_mem_nil, or_false] at member
  rcases member with rfl | rfl | rfl
  · exact ⟨integers [1, 1], 200, rfl⟩
  · exact ⟨integers [9, 6], 1566, rfl⟩
  · exact ⟨integers [12, 16], 2880, rfl⟩

theorem searchParallelOn_sound_optimal_productMix :
    ∃ constraints : List (Constraint Unit Mix), productMix.namedConstraints = .ok constraints ∧
      ∃ winner appended,
        (Sampler.mk productMix.toProblem constraints).searchParallelOn (.int 6) (.int 3) .null
            (.whole fun worker => if worker = 1 then .delays else .runs)
            ⟨.value (.int 21), none, some [], ()⟩ =
          .ok winner ⟨.value (.int 21), none, some appended, ()⟩ ∧
        appended.length = 18 ∧
        ∀ best, winner = some best → best ∈ appended ∧
          ∃ point, productMix.Shows best point ∧ productMix.Allows point := by
  refine ⟨_, rfl, ?_⟩
  have runs : Dispatch.RunsAll 3 (.whole fun worker => if worker = 1 then .delays else .runs) := by
    intro worker _
    dsimp only
    split
    · exact Or.inr rfl
    · exact Or.inl rfl
  obtain ⟨winner, appended, returned, count, _, _, optimal⟩ :=
    @searchParallelOn_sound_optimal Unit productMixDraft productMix rfl isIntegral_productMix
      (by decide) (by decide) _ rfl _ 6 3 21 runs .null rfl
      ⟨.value (.int 21), none, some [], ()⟩ rfl [] rfl
  refine ⟨winner, appended, returned, count, fun best found => ?_⟩
  obtain ⟨member, point, shows, allows, _⟩ := optimal best found
  exact ⟨member, point, shows, allows⟩

end LinearProblem

end RandomSearch
