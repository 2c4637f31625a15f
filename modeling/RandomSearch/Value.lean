import RandomSearch.Number
import RandomSearch.Text

/-!
# Dynamic values

Problem definitions, goals and verdicts are values whose form is only known when they arrive:
nothing, a truth value, an integer, a float, a text, a list, a tuple, or a map that keeps the order
in which its keys were first put.  A tuple differs from a list in that it never changes, so that it
can serve as a key.
-/

namespace RandomSearch

/-- A dynamic value. -/
inductive Value where
  | null
  | bool (b : Bool)
  | int (n : Int)
  | float (x : Float)
  | str (s : Text)
  | list (items : List Value)
  | tuple (items : List Value)
  | map (entries : List (Value × Value))
  deriving Inhabited

namespace Value

inductive Kind where
  | null
  | bool
  | int
  | float
  | str
  | list
  | tuple
  | map
  deriving DecidableEq, Repr

def Kind.name : Kind → String
  | .null => "NoneType"
  | .bool => "bool"
  | .int => "int"
  | .float => "float"
  | .str => "str"
  | .list => "list"
  | .tuple => "tuple"
  | .map => "dict"

def kind : Value → Kind
  | .null => .null
  | .bool _ => .bool
  | .int _ => .int
  | .float _ => .float
  | .str _ => .str
  | .list _ => .list
  | .tuple _ => .tuple
  | .map _ => .map

/-- The number a value stands for.  The truth values stand for one and zero. -/
def number? : Value → Option Number
  | .bool b => some (.int (if b then 1 else 0))
  | .int n => some (.int n)
  | .float x => some (.float x)
  | _ => none

def ofNumber : Number → Value
  | .int n => .int n
  | .float x => .float x

/-- Whether a value counts as true: all do but nothing, false, the zeros and what is empty. -/
def truthy : Value → Bool
  | .null => false
  | .bool b => b
  | .int n => n != 0
  | .float x => !(Number.float x).isZero
  | .str s => !s.isEmpty
  | .list items | .tuple items => !items.isEmpty
  | .map entries => !entries.isEmpty

/-- The items met when going through a value: those of a list or tuple, the keys of a map, and the
code points of a text. -/
def items? : Value → Option (List Value)
  | .list items | .tuple items => some items
  | .map entries => some (entries.map Prod.fst)
  | .str s => some (s.map fun point => .str [point])
  | _ => none

mutual

/-- The form because of which a value cannot serve as a key, if there is one.  Lists and maps
change, and a tuple that holds one does so with it. -/
def changingKind? : Value → Option Kind
  | .list _ => some .list
  | .map _ => some .map
  | .tuple items => firstChangingKind? items
  | _ => none
termination_by structural value => value

/-- The first form among those of some values because of which a value cannot serve as a key. -/
def firstChangingKind? : List Value → Option Kind
  | [] => none
  | item :: rest =>
      match changingKind? item with
      | some kind => some kind
      | none => firstChangingKind? rest
termination_by structural items => items

end

@[simp]
theorem number?_ofNumber (number : Number) : (ofNumber number).number? = some number := by
  cases number <;> rfl

end Value

end RandomSearch
