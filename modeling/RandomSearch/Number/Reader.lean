import RandomSearch.Number.Decimal

/-!
# Reading floats

A decimal text names the float nearest to the decimal number it writes.  Numbers too large for a
float are read as an infinity and numbers too small as zero.
-/

namespace RandomSearch

namespace Decimal

/-- The number written with the given characters, of which only the decimal digits count. -/
def digitsValue (text : List Char) : Nat :=
  text.foldl (fun total c => if c.isDigit then 10 * total + (c.toNat - 48) else total) 0

def readExponent? (text : List Char) : Option Int :=
  let (negative, digits) :=
    match text with
    | '+' :: rest => (false, rest)
    | '-' :: rest => (true, rest)
    | _ => (false, text)
  if digits.isEmpty || !digits.all Char.isDigit then
    none
  else if negative then
    some (-(digitsValue digits : Int))
  else
    some (digitsValue digits)

/-- Read digits with at most one point among them and an exponent after them, the point and the
exponent both optional. -/
def read? (text : List Char) : Option Decimal := do
  let isMark (c : Char) : Bool := c == 'e' || c == 'E'
  let mantissa := text.takeWhile fun c => !isMark c
  let whole := mantissa.takeWhile Char.isDigit
  let fraction ←
    match mantissa.drop whole.length with
    | [] => some []
    | '.' :: rest => if rest.all Char.isDigit then some rest else none
    | _ => none
  let exponent ←
    match text.drop mantissa.length with
    | [] => some 0
    | _ :: rest => readExponent? rest
  if whole.isEmpty && fraction.isEmpty then
    none
  else
    some ⟨digitsValue (whole ++ fraction), exponent - fraction.length⟩

/-- The float nearest to a decimal.  A decimal whose leading digit stands above the range of floats,
or far below it, is settled without computing the power of ten. -/
def toFloat (negative : Bool) (decimal : Decimal) : Float :=
  let magnitude := (width decimal.digits : Int) + decimal.exponent
  let unsigned : Float :=
    if decimal.digits = 0 ∨ magnitude < -400 then 0.0
    else if 400 < magnitude then 1.0 / 0.0
    else if decimal.exponent < 0 then
      Float.ofScientific decimal.digits true decimal.exponent.natAbs
    else
      Float.ofScientific decimal.digits false decimal.exponent.natAbs
  if negative then -unsigned else unsigned

end Decimal

/-- Read a float: an optional minus before a decimal or one of the words for an infinity and an
undefined value. -/
def readFloat? (text : List Char) : Option Float :=
  let (negative, unsigned) :=
    match text with
    | '-' :: rest => (true, rest)
    | _ => (false, text)
  if unsigned = ['i', 'n', 'f'] then
    some (if negative then -1.0 / 0.0 else 1.0 / 0.0)
  else if unsigned = ['n', 'a', 'n'] then
    some (0.0 / 0.0)
  else
    (Decimal.read? unsigned).map (Decimal.toFloat negative)

end RandomSearch
