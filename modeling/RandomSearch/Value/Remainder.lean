import RandomSearch.Value.Pattern

/-!
# Remainders

The remainder of two numbers has the sign of the divisor.  The same sign between a text and a value
asks for the value to be put into the text.
-/

namespace RandomSearch

/-- The float equal to a rational number whose denominator is a power of two that floats have. -/
def floatOfDyadic (value : Rat) : Float :=
  let places := value.den.log2
  let unsigned := Float.ofScientific (value.num.natAbs * Nat.pow 5 places) true places
  if value.num < 0 then -unsigned else unsigned

def floatRemainder (x y : Float) : Float :=
  match Extended.ofFloat x, Extended.ofFloat y with
  | .finite dividend, .finite divisor =>
      let quotient := dividend / divisor
      let remainder := dividend - divisor * (quotient.num.tdiv quotient.den : Int)
      if remainder = 0 then
        if divisor < 0 then -0.0 else 0.0
      else if (remainder < 0) = (divisor < 0) then
        floatOfDyadic remainder
      else
        floatOfDyadic remainder + y
  | .finite dividend, .positiveInfinity => if dividend < 0 then y else x
  | .finite dividend, .negativeInfinity => if 0 < dividend then y else x
  | _, _ => 0.0 / 0.0

def Number.remainder (dividend divisor : Number) : Except ValueFault Number :=
  match dividend, divisor with
  | .int left, .int right =>
      if right = 0 then .error .integerModulusZero else .ok (.int (left.fmod right))
  | _, _ =>
      match dividend.toFloat?, divisor.toFloat? with
      | some x, some y =>
          if (Number.float y).isZero then .error .floatModulusZero
          else .ok (.float (floatRemainder x y))
      | _, _ => .error .integerTooLargeForFloat

/-- The remainder of two values: that of numbers, or the text that comes of putting a value into a
pattern. -/
def Value.remainder (left right : Value) : Except ValueFault Value :=
  match left with
  | .str pattern => (Pattern.fill pattern right).map .str
  | _ =>
      match left.number?, right.number? with
      | some dividend, some divisor => (dividend.remainder divisor).map .ofNumber
      | _, _ => .error (.unsupported .mod left.kind right.kind)

end RandomSearch
