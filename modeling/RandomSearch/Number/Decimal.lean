import RandomSearch.Number.Binary

/-!
# The shortest decimal form of a float

A float is written with the fewest decimal digits that lie nearer to it than to any other float; of
several such forms the nearest is taken, and of two equally near ones that with an even last digit.
All of it is decided in exact integer arithmetic: the float and the ends of the interval of numbers
that round to it are put over one common denominator.
-/

namespace RandomSearch

/-- The decimal number `digits * 10 ^ exponent`. -/
structure Decimal where
  digits : Nat
  exponent : Int
  deriving DecidableEq, Repr

namespace Decimal

def width (n : Nat) : Nat :=
  (Nat.toDigits 10 n).length

/-- A float with positive mantissa, in units of which it is `value` and the interval of numbers
rounding to it reaches from `least` to `greatest`. -/
structure Target where
  value : Nat
  least : Nat
  greatest : Nat
  /-- How many of the units make one. -/
  unit : Nat
  /-- Whether the ends of the interval belong to it. -/
  closed : Bool

/-- The interval around `mantissa * 2 ^ exponent`.  Below a power of two the next float is only half
as far away. -/
def Target.ofBinary (mantissa : Nat) (exponent : Int) : Target :=
  let up := Nat.pow 2 exponent.toNat
  let gapBelow := if mantissa = 0x10000000000000 ∧ -1074 < exponent then 1 else 2
  { value := 4 * mantissa * up
    least := (4 * mantissa - gapBelow) * up
    greatest := (4 * mantissa + 2) * up
    unit := 4 * Nat.pow 2 (-exponent).toNat
    closed := mantissa % 2 == 0 }

def Target.holds (target : Target) (position : Nat) : Bool :=
  if target.closed then
    target.least ≤ position && position ≤ target.greatest
  else
    target.least < position && position < target.greatest

/-- The decimal exponent of the leading digit of a float: the greatest `e` with `10 ^ e` not above
it.  The power of ten put before the division makes the quotient positive for every float. -/
def Target.leadingExponent (target : Target) : Int :=
  (width (target.value * Nat.pow 10 400 / target.unit) : Int) - 401

/-- Measure a target against the step `10 ^ exponent`: the target with all of its units refined so
that a step is a whole number of them, and that number. -/
def Target.onGrid (target : Target) (exponent : Int) : Target × Nat :=
  let fine := Nat.pow 10 (-exponent).toNat
  ({ target with
      value := target.value * fine
      least := target.least * fine
      greatest := target.greatest * fine },
    target.unit * Nat.pow 10 exponent.toNat)

/-- The best multiple of `10 ^ exponent` in the interval, if there is one: one of the two neighbours
of the float on that grid. -/
def Target.nearest? (target : Target) (exponent : Int) : Option Decimal :=
  let (refined, step) := target.onGrid exponent
  let below := refined.value / step
  let distanceBelow := refined.value - below * step
  let distanceAbove := (below + 1) * step - refined.value
  match refined.holds (below * step), refined.holds ((below + 1) * step) with
  | true, true =>
      if distanceBelow < distanceAbove ∨ (distanceBelow = distanceAbove ∧ below % 2 = 0) then
        some ⟨below, exponent⟩
      else
        some ⟨below + 1, exponent⟩
  | true, false => some ⟨below, exponent⟩
  | false, true => some ⟨below + 1, exponent⟩
  | false, false => none

/-- The shortest decimal in the interval.  Seventeen digits are always enough, so that the search
ends within the list. -/
def Target.shortest (target : Target) : Decimal :=
  let leading := target.leadingExponent
  ((List.range 17).findSome? fun (more : Nat) => target.nearest? (leading - (more : Int))).getD
    ⟨target.value / target.unit, 0⟩

/-- Drop the zeros at the end of the digits, at most `fuel` of them. -/
def trimZeros : Nat → Decimal → Decimal
  | 0, decimal => decimal
  | fuel + 1, ⟨digits, exponent⟩ =>
      if digits ≠ 0 ∧ digits % 10 = 0 then
        trimZeros fuel ⟨digits / 10, exponent + 1⟩
      else
        ⟨digits, exponent⟩

def ofBinary (mantissa : Nat) (exponent : Int) : Decimal :=
  if mantissa = 0 then
    ⟨0, 0⟩
  else
    let shortest := (Target.ofBinary mantissa exponent).shortest
    trimZeros (width shortest.digits) shortest

end Decimal

structure DecimalStyle where
  /-- The least exponent of the leading digit that is written without one. -/
  leastPositional : Int
  /-- The first exponent of the leading digit above those. -/
  endPositional : Int
  /-- The least number of digits of a written exponent. -/
  exponentWidth : Nat

namespace DecimalStyle

/-- A written exponent, with its sign and at least the digits asked for. -/
def exponentText (style : DecimalStyle) (exponent : Int) : List Char :=
  let digits := Nat.toDigits 10 exponent.natAbs
  'e' :: (if exponent < 0 then '-' else '+') ::
    (List.replicate (style.exponentWidth - digits.length) '0' ++ digits)

/-- The text of a decimal.  Without an exponent it always has a point with digits on both sides;
with one, a single digit stands before the point, and the point only where digits follow. -/
def layOut (style : DecimalStyle) (decimal : Decimal) : List Char :=
  let digits := Nat.toDigits 10 decimal.digits
  let leading : Int := (digits.length : Int) - 1 + decimal.exponent
  if style.leastPositional ≤ leading ∧ leading < style.endPositional then
    if leading < 0 then
      '0' :: '.' :: (List.replicate (-leading - 1).toNat '0' ++ digits)
    else
      let whole := digits ++ List.replicate decimal.exponent.toNat '0'
      let fraction := whole.drop (leading.toNat + 1)
      whole.take (leading.toNat + 1) ++ '.' :: (if fraction.isEmpty then ['0'] else fraction)
  else
    digits.take 1 ++ (if digits.length ≤ 1 then [] else '.' :: digits.drop 1) ++
      style.exponentText leading

def floatText (style : DecimalStyle) (x : Float) : List Char :=
  match Binary.ofFloat x with
  | .finite negative mantissa exponent =>
      let unsigned := style.layOut (Decimal.ofBinary mantissa exponent)
      if negative then '-' :: unsigned else unsigned
  | .infinite false => ['i', 'n', 'f']
  | .infinite true => ['-', 'i', 'n', 'f']
  | .undefined => ['n', 'a', 'n']

end DecimalStyle

end RandomSearch
