import Mathlib.Algebra.Order.Ring.Cast
import Mathlib.Algebra.Order.Ring.Rat
import Mathlib.Order.WithBot
import RandomSearch.Value.Convert

/-!
# Numbers in their order

Numbers that are not undefined have a rank, which is a point of a linear order.  Comparing two of
them comes down to comparing their ranks, and to comparing integers where both are integers.
-/

namespace RandomSearch

/-- Where a number lies on the number line with both ends added. -/
abbrev Rank :=
  WithBot (WithTop Rat)

def Extended.rank? : Extended → Option Rank
  | .negativeInfinity => some ⊥
  | .finite value => some ((value : WithTop Rat) : Rank)
  | .positiveInfinity => some ((⊤ : WithTop Rat) : Rank)
  | .undefined => none

theorem Extended.exists_rank {point : Extended} (defined : point ≠ .undefined) :
    ∃ place, point.rank? = some place := by
  cases point with
  | undefined => exact absurd rfl defined
  | negativeInfinity => exact ⟨_, rfl⟩
  | finite value => exact ⟨_, rfl⟩
  | positiveInfinity => exact ⟨_, rfl⟩

theorem Extended.compare?_of_rank {left right : Extended} {x y : Rank}
    (leftRank : left.rank? = some x) (rightRank : right.rank? = some y) :
    left.compare? right = some (if x < y then .lt else if x = y then .eq else .gt) := by
  cases left <;> cases right <;> cases leftRank <;> cases rightRank <;> simp [compare?]

/-- The rank of an integer. -/
def Rank.ofInt (n : Int) : Rank :=
  (((n : Rat) : WithTop Rat) : Rank)

/-! ## Comparisons -/

namespace Comparison

variable {ι : Type} [LinearOrder ι]

/-- What a comparison says about two points of a linear order. -/
def Relates : Comparison → ι → ι → Prop
  | .lt, left, right => left < right
  | .le, left, right => left ≤ right
  | .gt, left, right => right < left
  | .ge, left, right => right ≤ left
  | .eq, left, right => left = right
  | .ne, left, right => left ≠ right

instance (comparison : Comparison) (left right : ι) : Decidable (comparison.Relates left right) :=
  match comparison with
  | .lt => inferInstanceAs (Decidable (left < right))
  | .le => inferInstanceAs (Decidable (left ≤ right))
  | .gt => inferInstanceAs (Decidable (right < left))
  | .ge => inferInstanceAs (Decidable (right ≤ left))
  | .eq => inferInstanceAs (Decidable (left = right))
  | .ne => inferInstanceAs (Decidable (left ≠ right))

theorem holds_order (comparison : Comparison) (left right : ι) :
    comparison.holds (some (if left < right then .lt else if left = right then .eq else .gt)) =
      decide (comparison.Relates left right) := by
  rcases lt_trichotomy left right with less | same | more
  · rw [if_pos less]
    cases comparison <;>
      simp [holds, Relates, less, le_of_lt less, ne_of_lt less, not_lt_of_gt less,
        not_le_of_gt less]
  · rw [if_neg (not_lt_of_ge (ge_of_eq same)), if_pos same]
    cases comparison <;> simp [holds, Relates, same]
  · rw [if_neg (not_lt_of_gt more), if_neg (ne_of_gt more)]
    cases comparison <;>
      simp [holds, Relates, more, le_of_lt more, ne_of_gt more, not_lt_of_gt more,
        not_le_of_gt more]

theorem relates_ofInt (comparison : Comparison) (left right : Int) :
    comparison.Relates (Rank.ofInt left) (Rank.ofInt right) ↔ comparison.Relates left right := by
  cases comparison <;> simp [Relates, Rank.ofInt]

end Comparison

namespace Value

/-- The rank of a value, if it is a number and not undefined. -/
def rank? (value : Value) : Option Rank :=
  value.number?.bind fun number => number.point.rank?

theorem rank?_of_int {value : Value} {n : Int} (number : value.number? = some (.int n)) :
    value.rank? = some (Rank.ofInt n) := by
  unfold rank?
  rw [number]
  rfl

theorem equals_of_number {left right : Value} {x y : Number}
    (leftNumber : left.number? = some x) (rightNumber : right.number? = some y) :
    left.equals right = x.equals y := by
  cases left <;> cases leftNumber <;> simp [equals, equalNumber, rightNumber]

/-- Comparing values that have ranks is comparing their ranks. -/
theorem compare_of_rank (comparison : Comparison) {left right : Value} {x y : Rank}
    (leftRank : left.rank? = some x) (rightRank : right.rank? = some y) :
    left.compare comparison right = .ok (decide (comparison.Relates x y)) := by
  obtain ⟨first, leftNumber, firstRank⟩ := Option.bind_eq_some_iff.mp leftRank
  obtain ⟨second, rightNumber, secondRank⟩ := Option.bind_eq_some_iff.mp rightRank
  have points := Extended.compare?_of_rank firstRank secondRank
  have order : left.order right =
      .ok (some (if x < y then .lt else if x = y then .eq else .gt)) := by
    rw [order_of_number leftNumber rightNumber]
    exact congrArg Except.ok points
  have equal : left.equals right = decide (x = y) := by
    rw [equals_of_number leftNumber rightNumber]
    unfold Number.equals Number.compare?
    rw [points]
    rcases lt_trichotomy x y with less | same | more
    · simp [less, ne_of_lt less]
    · simp [same]
    · simp [not_lt_of_gt more, ne_of_gt more]
  have ordered : (left.order right).map comparison.holds =
      .ok (decide (comparison.Relates x y)) := by
    rw [order, ← comparison.holds_order x y]
    rfl
  unfold Value.compare compareBy
  cases comparison with
  | eq => simp only [equal]; rfl
  | ne =>
      simp only [equal, ← decide_not]
      rfl
  | _ => exact congrArg (Except.mapError _) ordered

end Value

end RandomSearch
