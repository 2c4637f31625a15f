import RandomSearch.Value

/-!
# Equality and order of values

Equality is defined between all values, across the forms of numbers but not otherwise across forms.
Order is defined between numbers, between texts, by code point, and between two lists or two tuples,
by the first items that are not equal; the attempt to order other values fails and names the two
forms that have no order.
-/

namespace RandomSearch

inductive Comparison where
  | lt
  | le
  | gt
  | ge
  | eq
  | ne
  deriving DecidableEq, Repr

namespace Comparison

def symbol : Comparison → String
  | .lt => "<"
  | .le => "<="
  | .gt => ">"
  | .ge => ">="
  | .eq => "=="
  | .ne => "!="

/-- Whether a comparison holds between two things of which the first lies as given relative to the
second; nothing but inequality holds where neither is known to come first and they are not equal. -/
def holds : Comparison → Option Ordering → Bool
  | .lt, some .lt => true
  | .le, some .lt => true
  | .le, some .eq => true
  | .gt, some .gt => true
  | .ge, some .gt => true
  | .ge, some .eq => true
  | .eq, some .eq => true
  | .ne, some .eq => false
  | .ne, _ => true
  | _, _ => false

end Comparison

namespace Value

def equalNumber (left : Number) (right : Value) : Bool :=
  match right.number? with
  | some right => left.equals right
  | none => false

mutual

/-- Whether two values are equal.  Maps are equal when they have the same keys with equal values, in
any order. -/
def equals : Value → Value → Bool
  | .null, .null => true
  | .str left, .str right => left == right
  | .list left, .list right => equalItems left right
  | .tuple left, .tuple right => equalItems left right
  | .map left, .map right => left.length == right.length && equalEntries left right
  | .bool left, right => equalNumber (.int (if left then 1 else 0)) right
  | .int left, right => equalNumber (.int left) right
  | .float left, right => equalNumber (.float left) right
  | _, _ => false
termination_by structural left => left

def equalItems : List Value → List Value → Bool
  | [], [] => true
  | left :: lefts, right :: rights => equals left right && equalItems lefts rights
  | _, _ => false
termination_by structural lefts => lefts

/-- Whether every entry of the first list has an equal one in the second. -/
def equalEntries : List (Value × Value) → List (Value × Value) → Bool
  | [], _ => true
  | (key, value) :: rest, entries =>
      (entries.any fun entry => equals key entry.1 && equals value entry.2) &&
        equalEntries rest entries
termination_by structural entries => entries

end

/-- The result of an attempt to order two values: their order, as far as there is one, or the first
forms met that have none. -/
abbrev Ordered := Except (Kind × Kind) (Option Ordering)

mutual

def order : Value → Value → Ordered
  | .list left, .list right => orderItems left right
  | .tuple left, .tuple right => orderItems left right
  | .str left, .str right => .ok (some (Text.order left right))
  | left, right =>
      match left.number?, right.number? with
      | some x, some y => .ok (x.compare? y)
      | _, _ => .error (left.kind, right.kind)
termination_by structural left => left

/-- The order of two lists: that of the first items that are not equal, and otherwise that of their
lengths. -/
def orderItems : List Value → List Value → Ordered
  | [], [] => .ok (some .eq)
  | [], _ :: _ => .ok (some .lt)
  | _ :: _, [] => .ok (some .gt)
  | left :: lefts, right :: rights =>
      if equals left right then orderItems lefts rights else order left right
termination_by structural lefts => lefts

end

def compareBy (comparison : Comparison) (left right : Value) : Except (Kind × Kind) Bool :=
  match comparison with
  | .eq => .ok (left.equals right)
  | .ne => .ok (!left.equals right)
  | _ => (left.order right).map comparison.holds

/-- Numbers always have an order, as far as numbers go. -/
theorem order_of_number {left right : Value} {x y : Number}
    (leftNumber : left.number? = some x) (rightNumber : right.number? = some y) :
    left.order right = .ok (x.compare? y) := by
  cases left <;> cases right <;> simp_all [order, number?]

end Value

end RandomSearch
