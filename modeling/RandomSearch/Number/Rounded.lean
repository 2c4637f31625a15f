import RandomSearch.Number.Decimal

/-!
# Floats in a given number of digits

A float is rounded to a number of places after the point, or to a number of digits in all.  Both are
exact: of two equally near decimals the one with an even last digit is taken.
-/

namespace RandomSearch

/-- A quotient rounded to the nearest whole number, and to the even one of two equally near ones. -/
def roundQuotient (numerator denominator : Nat) : Nat :=
  let below := numerator / denominator
  let left := numerator % denominator
  if denominator < 2 * left ∨ (denominator = 2 * left ∧ below % 2 = 1) then below + 1 else below

/-- A number that is not negative, as a quotient. -/
structure Magnitude where
  numerator : Nat
  denominator : Nat

namespace Magnitude

def ofBinary (mantissa : Nat) (exponent : Int) : Magnitude :=
  ⟨mantissa * Nat.pow 2 exponent.toNat, Nat.pow 2 (-exponent).toNat⟩

/-- The number in units of `10 ^ exponent`, rounded. -/
def inUnits (magnitude : Magnitude) (exponent : Int) : Nat :=
  roundQuotient (magnitude.numerator * Nat.pow 10 (-exponent).toNat)
    (magnitude.denominator * Nat.pow 10 exponent.toNat)

def leadingExponent (magnitude : Magnitude) : Int :=
  (Decimal.width (magnitude.numerator * Nat.pow 10 400 / magnitude.denominator) : Int) - 401

/-- The first digits of a number, as many as asked for, and the exponent of the leading one. -/
def leadingDigits (magnitude : Magnitude) (count : Nat) : List Char × Int :=
  if magnitude.numerator = 0 then
    (List.replicate count '0', 0)
  else
    let leading := magnitude.leadingExponent
    let digits := Nat.toDigits 10 (magnitude.inUnits (leading - count + 1))
    (digits.take count, leading + digits.length - count)

end Magnitude

structure RoundedStyle where
  /-- Whether the point stands even where no digits follow, and zeros at the end are kept. -/
  keepsPoint : Bool
  exponent : DecimalStyle

namespace RoundedStyle

def withPoint (style : RoundedStyle) (whole fraction : List Char) : List Char :=
  if fraction.isEmpty && !style.keepsPoint then whole else whole ++ '.' :: fraction

/-- Digits before the point and after it, without the zeros at their end unless these are kept. -/
def trimmed (style : RoundedStyle) (whole fraction : List Char) : List Char :=
  if style.keepsPoint then
    style.withPoint whole fraction
  else
    style.withPoint whole (fraction.reverse.dropWhile (· = '0')).reverse

/-- A number with the given number of places after the point. -/
def fixed (style : RoundedStyle) (places : Nat) (magnitude : Magnitude) : List Char :=
  let digits := Nat.toDigits 10 (magnitude.inUnits (-places))
  let filled := List.replicate (places + 1 - digits.length) '0' ++ digits
  style.withPoint (filled.take (filled.length - places)) (filled.drop (filled.length - places))

/-- A number with one digit before the point, the given number of places after it, and an
exponent. -/
def scientific (style : RoundedStyle) (places : Nat) (magnitude : Magnitude) : List Char :=
  let (digits, leading) := magnitude.leadingDigits (places + 1)
  style.withPoint (digits.take 1) (digits.drop 1) ++ style.exponent.exponentText leading

/-- The most digits of any float.  All digits after those are zeros. -/
def mostDigits : Nat :=
  767

/-- A number in the given number of digits.  It has an exponent if the leading digit stands below
the fourth place after the point, or if there are fewer digits than places before it. -/
def general (style : RoundedStyle) (wanted : Nat) (magnitude : Magnitude) : List Char :=
  let count := if style.keepsPoint then wanted else min wanted mostDigits
  let (digits, leading) := magnitude.leadingDigits count
  if style.exponent.leastPositional ≤ leading ∧ leading < count then
    if leading < 0 then
      style.trimmed ['0'] (List.replicate (-leading - 1).toNat '0' ++ digits)
    else
      style.trimmed (digits.take (leading.toNat + 1)) (digits.drop (leading.toNat + 1))
  else
    style.trimmed (digits.take 1) (digits.drop 1) ++ style.exponent.exponentText leading

end RoundedStyle

def Magnitude.floatText (write : Magnitude → List Char) (x : Float) : List Char :=
  match Binary.ofFloat x with
  | .finite negative mantissa exponent =>
      let unsigned := write (.ofBinary mantissa exponent)
      if negative then '-' :: unsigned else unsigned
  | .infinite false => ['i', 'n', 'f']
  | .infinite true => ['-', 'i', 'n', 'f']
  | .undefined => ['n', 'a', 'n']

end RandomSearch
