import RandomSearch.Number.Binary

/-!
# Numbers

A number is an integer of any size or a binary float.  Comparison is exact between the two forms;
arithmetic stays with integers as long as both operands are integers and otherwise takes place in
floats, which an integer beyond their range does not fit.
-/

namespace RandomSearch

/-- An integer of any size, or a binary float. -/
inductive Number where
  | int (n : Int)
  | float (x : Float)
  deriving DecidableEq

namespace Number

def point : Number → Extended
  | .int n => .ofInt n
  | .float x => .ofFloat x

/-- How two numbers compare, without rounding either of them. -/
def compare? (left right : Number) : Option Ordering :=
  left.point.compare? right.point

def equals (left right : Number) : Bool :=
  left.compare? right == some .eq

def isZero (number : Number) : Bool :=
  number.equals (.int 0)

/-- The nearest float to an integer, unless the integer lies beyond the range of floats. -/
def floatOfInt? (n : Int) : Option Float :=
  let x := Float.ofInt n
  match Binary.ofFloat x with
  | .finite .. => some x
  | _ => none

def toFloat? : Number → Option Float
  | .int n => floatOfInt? n
  | .float x => some x

def add? : Number → Number → Option Number
  | .int left, .int right => some (.int (left + right))
  | left, right => do
      let x ← left.toFloat?
      let y ← right.toFloat?
      return .float (x + y)

def mul? : Number → Number → Option Number
  | .int left, .int right => some (.int (left * right))
  | left, right => do
      let x ← left.toFloat?
      let y ← right.toFloat?
      return .float (x * y)

@[simp]
theorem compare?_int (left right : Int) :
    compare? (.int left) (.int right) =
      some (if left < right then .lt else if left = right then .eq else .gt) := by
  simp only [compare?, point, Extended.ofInt, Extended.compare?, Rat.intCast_lt_intCast,
    Rat.intCast_inj]

end Number

end RandomSearch
