import RandomSearch.Proofs.LinearSearch
import RandomSearch.Proofs.Rejection

/-!
# Points of a box

A draw from a box that has a limit of more than sixty-four bits fails before any word is taken.
Every other draw gives one integer for every variable, in their order, each between its limits, from
the generator that the one before has left.  A range with a single value takes no word.
-/

namespace RandomSearch

variable {σ : Type}

namespace Generator

variable {lower upper : Int}

/-- What is drawn from an inclusive range: a value between the limits, which is the lower one
without a word if it is the only one, and otherwise what the first word that is not rejected places,
if there is such a word. -/
structure DrawnBetween (lower upper : Int) (generator : Generator) (value : Int)
    (last : Generator) : Prop where
  lower_le : lower ≤ value
  le_upper : value ≤ upper
  single : lower = upper → last = generator
  accepted : lower < upper → ∀ offset moved,
    Accepts ((upper - lower).toNat + 1) generator offset moved →
      value = lower + offset ∧ last = moved

theorem drawnBetween_drawBetween (ordered : lower ≤ upper) (generator : Generator) :
    DrawnBetween lower upper generator (generator.drawBetween lower upper).1
      (generator.drawBetween lower upper).2 where
  lower_le := lower_le_drawBetween lower upper generator
  le_upper := drawBetween_le_upper ordered generator
  single same := by
    subst same
    rw [drawBetween_self]
  accepted less offset moved accepts := by
    have several : 1 < (upper - lower).toNat + 1 := by omega
    unfold drawBetween
    rw [drawBelow_of_accepts several accepts]
    exact ⟨rfl, rfl⟩

/-- A point is drawn coordinate by coordinate, each from the generator that the one before has
left. -/
inductive Fills : List Int → List Int → Generator → List Int → Generator → Prop
  | nil (generator : Generator) : Fills [] [] generator [] generator
  | cons {lower upper value : Int} {lowers uppers point : List Int}
      {generator moved last : Generator}
      (first : DrawnBetween lower upper generator value moved)
      (others : Fills lowers uppers moved point last) :
      Fills (lower :: lowers) (upper :: uppers) generator (value :: point) last

theorem fills_drawBox {lowers uppers : List Int} (ranges : List.Forall₂ (· ≤ ·) lowers uppers)
    (generator : Generator) :
    Fills lowers uppers generator (generator.drawBox lowers uppers).1
      (generator.drawBox lowers uppers).2 := by
  induction ranges generalizing generator with
  | nil => exact .nil generator
  | cons ordered _ inductionHypothesis =>
      exact .cons (drawnBetween_drawBetween ordered generator) (inductionHypothesis _)

end Generator

namespace LinearProblem

variable {problem : LinearProblem}

theorem checkBox_of_lower (tooWide : ∃ limit ∈ problem.lower, fitsWord limit = false) :
    problem.checkBox = .error (.ofStream .lowerOutOfRange) := by
  obtain ⟨limit, member, notFits⟩ := tooWide
  unfold checkBox
  rw [List.all_eq_false.mpr ⟨limit, member, by rw [notFits]; exact Bool.false_ne_true⟩]
  rfl

theorem checkBox_of_upper (lowerFits : ∀ limit ∈ problem.lower, fitsWord limit = true)
    (tooWide : ∃ limit ∈ problem.upper, fitsWord limit = false) :
    problem.checkBox = .error (.ofStream .upperOutOfRange) := by
  obtain ⟨limit, member, notFits⟩ := tooWide
  unfold checkBox
  rw [List.all_eq_true.mpr lowerFits,
    List.all_eq_false.mpr ⟨limit, member, by rw [notFits]; exact Bool.false_ne_true⟩]
  rfl

/-- A draw from a box that cannot be drawn from takes no word. -/
theorem draw_of_checkBox_error {fault : Fault} (refused : problem.checkBox = .error fault)
    (before : Generator × σ) : problem.draw before = .error fault before := by
  unfold draw
  rw [refused]
  rfl

/-- A draw for a problem with integer weights fails exactly if some limit has more than sixty-four
bits, of which the lower ones are looked at first, and then takes no word.  Otherwise it gives one
integer for every variable, each between its limits, and their weighted total as the goal, and the
coordinates have been drawn one after the other. -/
theorem draw_fills_box {draft : LinearDraft} {problem : LinearProblem}
    (made : draft.toProblem = .ok problem)
    (integers : ∀ weight ∈ problem.objective, weight.IsInteger) (generator : Generator)
    (surroundings : σ) :
    ((∃ limit ∈ problem.lower, fitsWord limit = false) →
      ∃ fault : Fault, problem.draw (generator, surroundings) =
          .error fault (generator, surroundings) ∧
        fault.kind = .valueError ∧ fault.message = "low is out of bounds for int64") ∧
    ((∀ limit ∈ problem.lower, fitsWord limit = true) →
      (∃ limit ∈ problem.upper, fitsWord limit = false) →
        ∃ fault : Fault, problem.draw (generator, surroundings) =
            .error fault (generator, surroundings) ∧
          fault.kind = .valueError ∧ fault.message = "high is out of bounds for int64") ∧
    ((∀ limit ∈ problem.lower, fitsWord limit = true) →
      (∀ limit ∈ problem.upper, fitsWord limit = true) →
        ∃ mix point moved, problem.draw (generator, surroundings) =
            .ok mix (moved, surroundings) ∧
          problem.Draws mix point ∧
            Generator.Fills problem.lower problem.upper generator point moved) := by
  have formed := LinearDraft.isWellFormed_of_toProblem made
  refine ⟨fun tooWide => ?_, fun lowerFits tooWide => ?_, fun lowerFits upperFits => ?_⟩
  · exact ⟨_, draw_of_checkBox_error (checkBox_of_lower tooWide) _, rfl, rfl⟩
  · exact ⟨_, draw_of_checkBox_error (checkBox_of_upper lowerFits tooWide) _, rfl, rfl⟩
  · let point := (generator.drawBox problem.lower problem.upper).1
    obtain ⟨above, below⟩ := generator.forall₂_drawBox formed.ranges
    have count : point.length = problem.names.length := above.length_eq.symm.trans formed.lower
    refine ⟨⟨point.map .int, .int (problem.total point), problem.names⟩, point, _, ?_,
      ⟨rfl, count, above, below, rfl⟩, Generator.fills_drawBox formed.ranges generator⟩
    rw [draw_of_checkBox (checkBox_eq_ok lowerFits upperFits), mixOf_eq_ok integers]

/-- A problem whose ranges have a single value, as many values as there are words of thirty-two
bits, one more than that, and as many as there are words of sixty-four bits. -/
def widthsDraft : LinearDraft where
  names := .list [.str "one", .str "half", .str "wider", .str "whole"]
  objective := .list [.int 2, .int (-3), .int 0, .int 1]
  lower := .list [.int (-5), .int (-1), .int 0, .int (-0x8000000000000000)]
  upper := .list [.int (-5), .int 0xfffffffe, .int 0x100000000, .int 0x7fffffffffffffff]
  constraints := []
  direction := .str "min"

/-- The problem with these ranges. -/
def widths : LinearProblem where
  names := [.str "one", .str "half", .str "wider", .str "whole"]
  objective := [.int 2, .int (-3), .int 0, .int 1]
  lower := [-5, -1, 0, -0x8000000000000000]
  upper := [-5, 0xfffffffe, 0x100000000, 0x7fffffffffffffff]
  constraints := []
  direction := .minimise

theorem draw_fills_box_widths :
    ∃ mix first second third last moved,
      widths.draw (⟨7, 11, some 0xffffffff⟩, ()) = .ok mix (moved, ()) ∧
        mix.values = [.int first, .int second, .int third, .int last] ∧ first = -5 ∧
          (-1 ≤ second ∧ second ≤ 0xfffffffe) ∧ (0 ≤ third ∧ third ≤ 0x100000000) ∧
            (-0x8000000000000000 ≤ last ∧ last ≤ 0x7fffffffffffffff) := by
  have integers : ∀ weight ∈ widths.objective, weight.IsInteger := by
    intro weight member
    simp only [widths, List.mem_cons, List.not_mem_nil, or_false] at member
    rcases member with rfl | rfl | rfl | rfl
    · exact ⟨2, rfl⟩
    · exact ⟨-3, rfl⟩
    · exact ⟨0, rfl⟩
    · exact ⟨1, rfl⟩
  obtain ⟨_, _, inBox⟩ :=
    @draw_fills_box Unit widthsDraft widths rfl integers ⟨7, 11, some 0xffffffff⟩ ()
  obtain ⟨mix, point, moved, drawn, draws, fills⟩ := inBox (by decide) (by decide)
  rcases fills with _ | ⟨one, _ | ⟨half, _ | ⟨wider, _ | ⟨whole, ⟨_⟩⟩⟩⟩⟩
  refine ⟨mix, _, _, _, _, moved, drawn, draws.values, ?_, ⟨half.lower_le, half.le_upper⟩,
    ⟨wider.lower_le, wider.le_upper⟩, ⟨whole.lower_le, whole.le_upper⟩⟩
  exact le_antisymm one.le_upper one.lower_le

end LinearProblem

end RandomSearch
