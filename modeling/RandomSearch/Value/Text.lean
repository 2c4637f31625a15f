import RandomSearch.Value
import RandomSearch.Number.Decimal
import RandomSearch.Text.Integer
import RandomSearch.Text.Quoted

/-!
# The text of a value

A value has two texts.  The quoted one shows the form of every part, with texts in quotes, lists in
square brackets, tuples in round ones and maps in braces.  The plain one differs only on a text by
itself, which stands without quotes.  Integers with more digits than can be read back are not
written.
-/

namespace RandomSearch.Value

/-- Floats are written without an exponent as long as the leading digit stands between the fourth
place after the point and the sixteenth before it, and with an exponent of at least two digits
otherwise. -/
def floatStyle : DecimalStyle :=
  ⟨-4, 16, 2⟩

def integerText (n : Int) : Text :=
  .ofString (toString n)

/-- Texts in round brackets.  A comma after a single one tells it from a bracketed text. -/
def tupleText : List Text → Text
  | [] => "()"
  | [part] => "(" ++ part ++ ",)"
  | parts => "(" ++ Text.joinWith ", " parts ++ ")"

mutual

def quotedText : Value → Text
  | .null => "None"
  | .bool true => "True"
  | .bool false => "False"
  | .int n => integerText n
  | .float x => .ofChars (floatStyle.floatText x)
  | .str s => s.quoted
  | .list items => "[" ++ Text.joinWith ", " (quotedItems items) ++ "]"
  | .tuple items => tupleText (quotedItems items)
  | .map entries => "\x7b" ++ Text.joinWith ", " (quotedEntries entries) ++ "\x7d"
termination_by structural value => value

def quotedItems : List Value → List Text
  | [] => []
  | item :: rest => quotedText item :: quotedItems rest
termination_by structural items => items

def quotedEntries : List (Value × Value) → List Text
  | [] => []
  | (key, value) :: rest =>
      (quotedText key ++ ": " ++ quotedText value) :: quotedEntries rest
termination_by structural entries => entries

end

def text : Value → Text
  | .str s => s
  | value => value.quotedText

/-! ## Integers that are too long -/

/-- The least positive integer with too many digits to be written. -/
def writtenLimit : Nat :=
  Nat.pow 10 Text.mostDigits

mutual

/-- Whether a value can be written: none of its integers has too many digits. -/
def isWritable : Value → Bool
  | .int n => n.natAbs < writtenLimit
  | .list items | .tuple items => itemsWritable items
  | .map entries => entriesWritable entries
  | _ => true
termination_by structural value => value

def itemsWritable : List Value → Bool
  | [] => true
  | item :: rest => isWritable item && itemsWritable rest
termination_by structural items => items

def entriesWritable : List (Value × Value) → Bool
  | [] => true
  | (key, value) :: rest => isWritable key && isWritable value && entriesWritable rest
termination_by structural entries => entries

end

@[simp]
theorem text_str (s : Text) : (Value.str s).text = s :=
  rfl

@[simp]
theorem isWritable_str (s : Text) : (Value.str s).isWritable = true :=
  rfl

end RandomSearch.Value
