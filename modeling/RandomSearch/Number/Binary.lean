/-!
# The exact reading of a binary float

A float is taken apart into sign, mantissa and exponent.  A finite one stands for the rational
number `mantissa * 2 ^ exponent`, so that comparing, cutting off a fraction and writing in decimal
all become exact integer arithmetic.
-/

namespace RandomSearch

inductive Binary where
  | finite (negative : Bool) (mantissa : Nat) (exponent : Int)
  | infinite (negative : Bool)
  | undefined
  deriving DecidableEq, Repr

namespace Binary

/-- Take a float apart.  The eleven bits below the sign hold the exponent; all of them set mark an
infinity or an undefined value, and none of them set marks a number without the implicit leading
bit. -/
def ofFloat (x : Float) : Binary :=
  let bits : Nat := x.toBits.toNat
  let negative := bits / 0x8000000000000000 == 1
  let biased : Nat := bits / 0x10000000000000 % 2048
  let fraction : Nat := bits % 0x10000000000000
  if biased = 2047 then
    if fraction = 0 then .infinite negative else .undefined
  else if biased = 0 then
    .finite negative fraction (-1074)
  else
    .finite negative (fraction + 0x10000000000000) ((biased : Int) - 1075)

def signedMantissa (negative : Bool) (mantissa : Nat) : Int :=
  if negative then -(mantissa : Int) else mantissa

def scale (mantissa : Int) (exponent : Int) : Rat :=
  if 0 ≤ exponent then
    ((mantissa * (Nat.pow 2 exponent.toNat : Nat) : Int) : Rat)
  else
    mkRat mantissa (Nat.pow 2 (-exponent).toNat)

end Binary

/-- A point of the number line with both ends added, or no point at all. -/
inductive Extended where
  | negativeInfinity
  | finite (value : Rat)
  | positiveInfinity
  | undefined
  deriving DecidableEq, Repr

namespace Extended

def ofFloat (x : Float) : Extended :=
  match Binary.ofFloat x with
  | .finite negative mantissa exponent =>
      .finite (Binary.scale (Binary.signedMantissa negative mantissa) exponent)
  | .infinite true => .negativeInfinity
  | .infinite false => .positiveInfinity
  | .undefined => .undefined

def ofInt (n : Int) : Extended :=
  .finite n

/-- Where the first point lies relative to the second; nothing is said about an undefined point. -/
def compare? : Extended → Extended → Option Ordering
  | .undefined, _ => none
  | _, .undefined => none
  | .negativeInfinity, .negativeInfinity => some .eq
  | .negativeInfinity, _ => some .lt
  | _, .negativeInfinity => some .gt
  | .positiveInfinity, .positiveInfinity => some .eq
  | .positiveInfinity, _ => some .gt
  | _, .positiveInfinity => some .lt
  | .finite left, .finite right =>
      some (if left < right then .lt else if left = right then .eq else .gt)

@[simp]
theorem compare?_undefined_left (point : Extended) :
    compare? .undefined point = none := by
  cases point <;> rfl

@[simp]
theorem compare?_undefined_right (point : Extended) :
    compare? point .undefined = none := by
  cases point <;> rfl

end Extended

end RandomSearch
