import RandomSearch.Fault

/-!
# Arithmetic on values

A product of numbers is a number; a text, a list or a tuple times an integer is a repetition, of
which only the form matters here.  Sums are taken of numbers.
-/

namespace RandomSearch

inductive Product where
  | number (value : Number)
  | repeated (kind : Value.Kind)
  deriving DecidableEq

namespace Value

def repeatable? : Value → Option Nat
  | .str s => some s.length
  | .list items | .tuple items => some items.length
  | _ => none

/-- Repeat something of the given form and length.  The number of repetitions must fit sixty-four
bits with a sign, and the whole into memory. -/
def repetition (kind : Kind) (length : Nat) (count : Value) : Except ValueFault Product :=
  match count.number? with
  | some (.int times) =>
      if times < -0x8000000000000000 ∨ 0x8000000000000000 ≤ times then
        .error .repeatCountTooLarge
      else if kind = .str ∧ 0x8000000000000000 ≤ length * times.toNat then
        .error .repeatedTextTooLong
      else if 0x10000000000 < length * times.toNat then
        .error .repeatedListTooLong
      else
        .ok (.repeated kind)
  | _ => .error (.notARepeatCount count.kind)

def times (left right : Value) : Except ValueFault Product :=
  match left.number?, right.number? with
  | some x, some y =>
      match x.mul? y with
      | some product => .ok (.number product)
      | none => .error .integerTooLargeForFloat
  | _, _ =>
      match left.repeatable?, right.repeatable? with
      | some length, _ => repetition left.kind length right
      | none, some length => repetition right.kind length left
      | none, none => .error (.unsupported .mul left.kind right.kind)

def numberKind (number : Number) : Kind :=
  (ofNumber number).kind

def plus (total : Number) : Product → Except ValueFault Number
  | .number product =>
      match total.add? product with
      | some sum => .ok sum
      | none => .error .integerTooLargeForFloat
  | .repeated kind => .error (.unsupported .add (numberKind total) kind)

/-- Add the products of corresponding values to a running total, one after the other.  What is left
over of the longer list is not looked at. -/
def addProducts (total : Number) : List Value → List Value → Except ValueFault Number
  | left :: lefts, right :: rights => do
      let product ← times left right
      let sum ← plus total product
      addProducts sum lefts rights
  | _, _ => .ok total

/-- The sum of the products of corresponding values, from zero on. -/
def dot (lefts rights : List Value) : Except ValueFault Number :=
  addProducts (.int 0) lefts rights

theorem plus_int (total product : Int) :
    plus (.int total) (.number (.int product)) = .ok (.int (total + product)) :=
  rfl

end Value

end RandomSearch
