import RandomSearch.Fault
import RandomSearch.Number.Reader
import RandomSearch.Text.Integer
import RandomSearch.Value.Convert

/-!
# The meaning of plain scalars

A plain scalar is nothing, a truth value, an integer, a float or a text, depending on how it is
written.  Integers can be written in the bases two, eight, ten and sixteen, and both integers and
floats in base sixty with colons between the digits; underscores do not count.
-/

namespace RandomSearch.Yaml

/-! ## Words -/

def nullWords : List String :=
  ["", "~", "null", "Null", "NULL"]

def trueWords : List String :=
  ["yes", "Yes", "YES", "true", "True", "TRUE", "on", "On", "ON"]

def falseWords : List String :=
  ["no", "No", "NO", "false", "False", "FALSE", "off", "Off", "OFF"]

def reservedWords : List String :=
  ["=", "<<"]

/-! ## Digits -/

def isDigitOrLine (c : Char) : Bool :=
  c.isDigit || c = '_'

def withoutLines (text : List Char) : List Char :=
  text.filter (· != '_')

def splitSign (text : List Char) : Option Bool × List Char :=
  match text with
  | '+' :: rest => (some false, rest)
  | '-' :: rest => (some true, rest)
  | _ => (none, text)

def splitColons : List Char → List (List Char)
  | [] => [[]]
  | c :: rest =>
      match splitColons rest with
      | [] => [[c]]
      | part :: parts => if c = ':' then [] :: part :: parts else (c :: part) :: parts

def isSixtieth : List Char → Bool
  | [c] => c.isDigit
  | [tens, c] => '0' ≤ tens && tens ≤ '5' && c.isDigit
  | _ => false

/-- Whether a text is not empty and consists of characters of a kind. -/
def isMadeOf (kind : Char → Bool) (text : List Char) : Bool :=
  !text.isEmpty && text.all kind

/-! ## Integers -/

def integerInBase (base : Nat) (text : List Char) : Except Fault Int :=
  match (withoutLines text).mapM RandomSearch.Text.hexDigit? with
  | some (digit :: digits) =>
      let total : Nat := digits.foldl (fun total digit => base * total + digit) digit
      .ok total
  | _ => .error (.ofValue (.notIntegerText base (.ofChars (withoutLines text))))

def decimalInteger (text : List Char) : Except Fault Int :=
  (Value.str (.ofChars (withoutLines text))).toInteger

def sexagesimalInteger (parts : List (List Char)) : Except Fault Int := do
  let digits ← parts.mapM decimalInteger
  return digits.foldl (fun total digit => 60 * total + digit) 0

def unsignedInteger? (text : List Char) : Option (Except Fault Int) :=
  match text with
  | ['0'] => some (.ok 0)
  | '0' :: c :: rest =>
      if c = 'b' ∧ isMadeOf (fun c => c = '0' || c = '1' || c = '_') rest = true then
        some (integerInBase 2 rest)
      else if c = 'x' ∧
          isMadeOf (fun c => c = '_' || (RandomSearch.Text.hexDigit? c).isSome) rest = true then
        some (integerInBase 16 rest)
      else if isMadeOf (fun c => c = '_' || ('0' ≤ c && c ≤ '7')) (c :: rest) then
        some (integerInBase 8 ('0' :: c :: rest))
      else
        none
  | c :: rest =>
      if '1' ≤ c ∧ c ≤ '9' then
        if rest.all isDigitOrLine then
          some (decimalInteger text)
        else
          match splitColons text with
          | first :: next :: parts =>
              if first.all isDigitOrLine ∧ (next :: parts).all isSixtieth = true then
                some (sexagesimalInteger (first :: next :: parts))
              else
                none
          | _ => none
      else
        none
  | [] => none

def integer? (text : List Char) : Option (Except Fault Int) :=
  let (sign, unsigned) := splitSign text
  (unsignedInteger? unsigned).map fun read =>
    read.map fun n => if sign = some true then -n else n

/-! ## Floats -/

/-- Whether a text is what can follow the point of a float: digits, and an exponent with a sign. -/
def isFraction (text : List Char) : Bool :=
  match text.dropWhile isDigitOrLine with
  | [] => true
  | mark :: sign :: digits =>
      (mark = 'e' || mark = 'E') && (sign = '+' || sign = '-') && isMadeOf Char.isDigit digits
  | _ => false

def decimalFloat (text : List Char) : Float :=
  match Decimal.read? (withoutLines text) with
  | some decimal => decimal.toFloat false
  | none => 0.0

/-- The float written in base sixty: the digits, from the last one on, times the powers of sixty. -/
def sexagesimalFloat (total : Number) (power : Int) : List (List Char) → Except Fault Number
  | [] => .ok total
  | part :: parts =>
      match (Number.float (decimalFloat part)).mul? (.int power) with
      | none => .error (.ofValue .integerTooLargeForFloat)
      | some product =>
          match total.add? product with
          | none => .error (.ofValue .integerTooLargeForFloat)
          | some sum => sexagesimalFloat sum (60 * power) parts

def isSexagesimalFloat (parts : List (List Char)) : Bool :=
  match parts, parts.getLast? with
  | (c :: first) :: _ :: _, some last =>
      c.isDigit && first.all isDigitOrLine && (parts.drop 1).dropLast.all isSixtieth &&
        isSixtieth (last.takeWhile (· != '.')) &&
        (match last.dropWhile (· != '.') with
          | [] => false
          | _ :: fraction => fraction.all isDigitOrLine)
  | _, _ => false

/-- Read a float without its sign, if the text is one.  Some floats must not have a sign. -/
def unsignedFloat? (signed : Bool) (text : List Char) : Option (Except Fault Number) :=
  match text with
  | '.' :: rest =>
      if rest = "inf".toList ∨ rest = "Inf".toList ∨ rest = "INF".toList then
        some (.ok (.float (1.0 / 0.0)))
      else if signed then
        none
      else if rest = "nan".toList ∨ rest = "NaN".toList ∨ rest = "NAN".toList then
        some (.ok (.float (0.0 / 0.0)))
      else if (rest.headD '_').isDigit ∧ isFraction rest = true then
        some (.ok (.float (decimalFloat text)))
      else
        none
  | c :: _ =>
      if c.isDigit then
        match text.dropWhile isDigitOrLine with
        | '.' :: fraction =>
            if isFraction fraction then some (.ok (.float (decimalFloat text))) else none
        | _ =>
            let parts := splitColons text
            if isSexagesimalFloat parts then
              some (sexagesimalFloat (.float 0.0) 1 parts.reverse)
            else
              none
      else
        none
  | [] => none

def negated : Number → Number
  | .int n => .int (-n)
  | .float x => .float (-x)

def float? (text : List Char) : Option (Except Fault Number) :=
  let (sign, unsigned) := splitSign text
  (unsignedFloat? sign.isSome unsigned).map fun read =>
    read.map fun number => if sign = some true then negated number else number

/-! ## Plain scalars -/

def plainValue (text : List Char) : Except Fault Value :=
  let word := String.ofList text
  if word ∈ nullWords then .ok .null
  else if word ∈ trueWords then .ok (.bool true)
  else if word ∈ falseWords then .ok (.bool false)
  else if word ∈ reservedWords then .error .malformedYaml
  else
    match float? text, integer? text with
    | some read, _ => read.map Value.ofNumber
    | none, some read => read.map .int
    | none, none => .ok (.str word)

end RandomSearch.Yaml
