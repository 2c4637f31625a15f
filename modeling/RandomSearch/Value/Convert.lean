import RandomSearch.Entries
import RandomSearch.Fault
import RandomSearch.Text.Integer

/-!
# Converting values

What a value of any form has to offer: its written text, the integer it stands for or writes, the
items met when going through it, its length, its fields, and the map its items list.
-/

namespace RandomSearch

instance : BEq Value :=
  ⟨Value.equals⟩

/-- The integer next to a point of the number line on the way to zero. -/
def Extended.truncate : Extended → Except ValueFault Int
  | .finite value => .ok (value.num.tdiv value.den)
  | .undefined => .error .undefinedAsInteger
  | .negativeInfinity | .positiveInfinity => .error .infiniteAsInteger

namespace Value

def written (value : Value) : Except Fault Text :=
  if value.isWritable then .ok value.text else .error (.ofValue .integerTooLong)

def toInteger (value : Value) : Except Fault Int :=
  match value with
  | .str s =>
      match Text.readInteger s.toChars with
      | .ok n => .ok n
      | .error .malformed => .error (.ofValue (.notIntegerText 10 s))
      | .error (.tooManyDigits count) => .error (.ofValue (.tooManyDigits count))
  | _ =>
      match value.number? with
      | some number => number.point.truncate.mapError .ofValue
      | none => .error (.ofValue (.notAnInteger value.kind))

def iterate (value : Value) : Except Fault (List Value) :=
  match value.items? with
  | some items => .ok items
  | none => .error (.ofValue (.notIterable value.kind))

def length (value : Value) : Except Fault Nat :=
  match value.items? with
  | some items => .ok items.length
  | none => .error (.ofValue (.noLength value.kind))

def entries (value : Value) : Except Fault (List (Value × Value)) :=
  match value with
  | .map entries => .ok entries
  | _ => .error (.ofValue (.noAttribute value.kind.name "get"))

def field (entries : List (Value × Value)) (name : String) : Except Fault Value :=
  match Entries.get? entries (Value.str name) with
  | some value => .ok value
  | none => .error (.ofValue (.missingKey (.str name)))

def fieldOr (entries : List (Value × Value)) (name : String) (otherwise : Value) : Value :=
  (Entries.get? entries (Value.str name)).getD otherwise

def checkKey (value : Value) : Except Fault Unit :=
  match value.changingKind? with
  | none => .ok ()
  | some kind => .error (.ofValue (.notAKey kind))

/-- Whether two keys of a document are the same.  There is only one undefined number in a
document. -/
def sameKey (left right : Value) : Bool :=
  match left, right with
  | .float x, .float y =>
      left.equals right || (Binary.ofFloat x == .undefined && Binary.ofFloat y == .undefined)
  | _, _ => left.equals right

/-- Put entries one after the other, where each must have a key that can serve as one. -/
def putAll (map : List (Value × Value)) : List (Value × Value) → Except Fault (List (Value × Value))
  | [] => .ok map
  | (key, value) :: rest => do
      checkKey key
      putAll (Entries.put key value map) rest

/-- Put the entries listed by the items of a value in a document, from the given position on: each
item must itself have exactly two items. -/
def putPairs (position : Nat) (map : List (Value × Value)) :
    List Value → Except Fault (List (Value × Value))
  | [] => .ok map
  | item :: rest =>
      match item.items? with
      | none => .error (.ofValue (.notAnEntry position))
      | some [key, value] => do
          checkKey key
          putPairs (position + 1) (Entries.putBy sameKey key value map) rest
      | some parts => .error (.ofValue (.notAPair position parts.length))

/-- The map that a value in a document is, or lists as the pairs of its keys and values. -/
def toMap (value : Value) : Except Fault (List (Value × Value)) :=
  match value with
  | .map entries => .ok entries
  | _ => do putPairs 0 [] (← value.iterate)

def compare (comparison : Comparison) (left right : Value) : Except Fault Bool :=
  (compareBy comparison left right).mapError fun (leftKind, rightKind) =>
    .ofValue (.unordered comparison leftKind rightKind)

@[simp]
theorem toInteger_int (n : Int) : (Value.int n).toInteger = .ok n := by
  change (Number.point (.int n)).truncate.mapError Fault.ofValue = .ok n
  have whole : (Number.point (.int n)).truncate = .ok n := by
    simp [Number.point, Extended.ofInt, Extended.truncate]
  rw [whole]
  rfl

@[simp]
theorem iterate_list (items : List Value) : (Value.list items).iterate = .ok items :=
  rfl

end Value

end RandomSearch
