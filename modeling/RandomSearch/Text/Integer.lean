import RandomSearch.Text.Blank
import RandomSearch.Text.Digit

/-!
# Reading integers

An integer is written in decimal digits of any script, with an optional sign before them, single
underscores between them and blanks around the whole.  A text with more than 4300 digits is refused,
whatever follows the digits.  After `0x` the digits are hexadecimal, and there may be any number of
them.
-/

namespace RandomSearch.Text

inductive IntegerError where
  | malformed
  | tooManyDigits (count : Nat)
  deriving DecidableEq, Repr

/-- The most digits an integer may have. -/
def mostDigits : Nat :=
  4300

/-- The blanks allowed around an integer: all but the four separators of blocks among the
controls. -/
def isIntegerBlank (c : Char) : Bool :=
  isBlank c && !(0x1c ≤ c.toNat && c.toNat ≤ 0x1f)

/-- Read digits as far as they go, where the first argument tells the value of a digit.  An
underscore must stand between two digits; the second argument tells whether a digit is due. -/
def takeDigits (valueOf? : Char → Option Nat) (digitDue : Bool) :
    List Char → Option (List Nat × List Char)
  | [] => if digitDue then none else some ([], [])
  | c :: rest =>
      match valueOf? c with
      | some digit =>
          (takeDigits valueOf? false rest).map fun (digits, remaining) =>
            (digit :: digits, remaining)
      | none =>
          if digitDue then none
          else if c = '_' then takeDigits valueOf? true rest
          else some ([], c :: rest)

/-- The number with the given digits in a base, the leading one first. -/
def ofDigits (base : Nat) (digits : List Nat) : Nat :=
  digits.foldl (fun total digit => base * total + digit) 0

/-- Take an optional sign off a text: whether it is a minus, and the rest. -/
def takeSign : List Char → Bool × List Char
  | '+' :: rest => (false, rest)
  | '-' :: rest => (true, rest)
  | text => (false, text)

def readInteger (text : List Char) : Except IntegerError Int :=
  let (negative, unsigned) := takeSign (text.dropWhile isIntegerBlank)
  match takeDigits digitValue? true unsigned with
  | none => .error .malformed
  | some (digits, remaining) =>
      if mostDigits < digits.length then
        .error (.tooManyDigits digits.length)
      else if remaining.all isIntegerBlank then
        .ok (if negative then -(ofDigits 10 digits : Int) else ofDigits 10 digits)
      else
        .error .malformed

/-- The value of a digit in base sixteen, where decimal digits can be of any script. -/
def hexadecimalValue? (c : Char) : Option Nat :=
  match digitValue? c with
  | some value => some value
  | none => hexDigit? c

/-- Read a number in base sixteen, marked by `0x` before its digits.  An underscore may also stand
before the first digit. -/
def readHexadecimal? : List Char → Option Nat
  | '0' :: 'x' :: text =>
      let digits := if text.head? = some '_' then text.tail else text
      match takeDigits hexadecimalValue? true digits with
      | some (values, remaining) =>
          if remaining.all isIntegerBlank then some (ofDigits 16 values) else none
      | none => none
  | _ => none

end RandomSearch.Text
