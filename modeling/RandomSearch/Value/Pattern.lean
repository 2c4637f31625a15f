import RandomSearch.Number.Rounded
import RandomSearch.Value.Convert

/-!
# Texts as patterns

A text can serve as a pattern into which values are put.  A percent sign begins a place: a key in
round brackets, flags, a width, a precision and the letter of a conversion, all but the last
optional.  Two percent signs stand for one.  The pattern is first taken apart into pieces and then
filled piece by piece, so that the first piece with a fault decides which fault that is.
-/

namespace RandomSearch

namespace Pattern

/-! ## Pieces -/

inductive Key where
  | absent
  | named (name : Text)
  /-- The bracket around the key is not closed. -/
  | unclosed
  deriving DecidableEq, Repr

/-- What stands before the width of a place. -/
structure Flags where
  /-- Fill up on the right. -/
  left : Bool
  /-- Write a plus before numbers that are not negative. -/
  plus : Bool
  /-- Leave a space before numbers that are not negative. -/
  space : Bool
  /-- Write the base of a number, or keep its point. -/
  alternate : Bool
  /-- Fill up numbers with zeros. -/
  zeros : Bool
  deriving DecidableEq, Repr

inductive Amount where
  | absent
  | given (n : Nat)
  /-- The amount is itself one of the values put in. -/
  | asked
  | tooBig
  deriving DecidableEq, Repr

structure Place where
  key : Key
  flags : Flags
  width : Amount
  precision : Amount
  /-- The conversion and its position, unless the pattern ends before it. -/
  conversion : Option (CodePoint × Nat)
  deriving DecidableEq, Repr

inductive Piece where
  | literal (point : CodePoint)
  | place (place : Place)
  deriving DecidableEq, Repr

/-- A text whose code points know their positions. -/
abbrev Placed :=
  List (CodePoint × Nat)

def startsWith (c : Char) : Placed → Bool
  | (.scalar first, _) :: _ => first == c
  | _ => false

/-! ## Taking a pattern apart -/

/-- Take the key up to the bracket that closes it, where brackets inside of it have to match. -/
def takeKey (depth : Nat) : Placed → Option (Text × Placed)
  | [] => none
  | (point, _) :: rest =>
      if point = .scalar ')' ∧ depth = 0 then
        some ([], rest)
      else
        let inner :=
          if point = .scalar ')' then depth - 1
          else if point = .scalar '(' then depth + 1
          else depth
        (takeKey inner rest).map fun (key, after) => (point :: key, after)

def readKey (text : Placed) : Key × Placed :=
  if startsWith '(' text then
    match takeKey 0 text.tail with
    | some (name, after) => (.named name, after)
    | none => (.unclosed, [])
  else
    (.absent, text)

def noFlags : Flags :=
  ⟨false, false, false, false, false⟩

def readFlags (flags : Flags) : Placed → Flags × Placed
  | (.scalar '-', _) :: rest => readFlags { flags with left := true } rest
  | (.scalar '+', _) :: rest => readFlags { flags with plus := true } rest
  | (.scalar ' ', _) :: rest => readFlags { flags with space := true } rest
  | (.scalar '#', _) :: rest => readFlags { flags with alternate := true } rest
  | (.scalar '0', _) :: rest => readFlags { flags with zeros := true } rest
  | text => (flags, text)

def isDigit (point : CodePoint) : Bool :=
  point.isChar Char.isDigit

/-- Take an amount, which must not be greater than the given one. -/
def readAmount (greatest : Nat) (text : Placed) : Amount × Placed :=
  if startsWith '*' text then
    (.asked, text.tail)
  else
    let digits := text.takeWhile fun placed => isDigit placed.1
    let after := text.drop digits.length
    if digits.isEmpty then
      (.absent, text)
    else
      let n := Text.ofDigits 10 (digits.map fun placed => placed.1.code - 0x30)
      (if greatest < n then .tooBig else .given n, after)

def greatestWidth : Nat :=
  0x7fffffffffffffff

def greatestPrecision : Nat :=
  0x7fffffff

/-- Take a precision, if a point begins it.  Nothing after the point counts as zero. -/
def readPrecision (text : Placed) : Amount × Placed :=
  if startsWith '.' text then
    match readAmount greatestPrecision text.tail with
    | (.absent, after) => (.given 0, after)
    | read => read
  else
    (.absent, text)

/-- Go past a letter for the size of a number, which has no meaning. -/
def skipSize (text : Placed) : Placed :=
  if startsWith 'h' text || startsWith 'l' text || startsWith 'L' text then text.tail else text

def readPlace (text : Placed) : Place × Placed :=
  let (key, afterKey) := readKey text
  let (flags, afterFlags) := readFlags noFlags afterKey
  let (width, afterWidth) := readAmount greatestWidth afterFlags
  let (precision, afterPrecision) := readPrecision afterWidth
  let rest := skipSize afterPrecision
  (⟨key, flags, width, precision, rest.head?⟩, rest.tail)

/-- Take a pattern apart.  Every round takes at least one code point. -/
def piecesFrom (fuel : Nat) (text : Placed) : List Piece :=
  match fuel, text with
  | 0, _ => []
  | _, [] => []
  | fuel + 1, (point, _) :: rest =>
      if point ≠ .scalar '%' then
        .literal point :: piecesFrom fuel rest
      else if startsWith '%' rest then
        .literal point :: piecesFrom fuel rest.tail
      else
        let (place, after) := readPlace rest
        .place place :: piecesFrom fuel after

def pieces (text : Text) : List Piece :=
  piecesFrom text.length text.zipIdx

/-! ## Laying out a value -/

/-- What a value looks like before it is filled up to a width. -/
structure Shown where
  sign : Text
  /-- The mark of the base. -/
  mark : Text
  body : Text
  isNumber : Bool

/-- A shown value filled up to a width.  Zeros stand between the sign and the digits, spaces before
the sign or at the end. -/
def Shown.fill (shown : Shown) (flags : Flags) (width : Nat) : Text :=
  let front := shown.sign ++ shown.mark
  let missing := width - (front.length + shown.body.length)
  if flags.left then
    front ++ shown.body ++ List.replicate missing (.scalar ' ')
  else if flags.zeros && shown.isNumber then
    front ++ List.replicate missing (.scalar '0') ++ shown.body
  else
    List.replicate missing (.scalar ' ') ++ front ++ shown.body

def signText (flags : Flags) (negative : Bool) : Text :=
  if negative then "-"
  else if flags.plus then "+"
  else if flags.space then " "
  else ""

def showText (precision : Option Nat) (text : Text) : Shown :=
  ⟨[], [], (precision.map text.take).getD text, false⟩

def integerFor (conversion : Char) (value : Value) : Except ValueFault Int :=
  let decimal := conversion = 'd' ∨ conversion = 'i' ∨ conversion = 'u'
  match value.number? with
  | some (.int n) => .ok n
  | some (.float x) =>
      if decimal then
        match (Extended.ofFloat x).truncate with
        | .ok n => .ok n
        | .error fault => .error fault
      else
        .error (.ofPattern (.integerRequired conversion value.kind))
  | none =>
      if decimal then .error (.ofPattern (.numberRequired conversion value.kind))
      else .error (.ofPattern (.integerRequired conversion value.kind))

def baseOf (conversion : Char) : Nat :=
  if conversion = 'o' then 8
  else if conversion = 'x' ∨ conversion = 'X' then 16
  else 10

/-- An integer in the base of the conversion, with at least as many digits as the precision says.
There has to be room for a sign and a mark. -/
def showInteger (conversion : Char) (flags : Flags) (precision : Option Nat) (n : Int) :
    Except ValueFault Shown :=
  let base := baseOf conversion
  if greatestPrecision < precision.getD 0 + 3 then
    .error (.ofPattern .precisionTooLarge)
  else if base = 10 ∧ (Value.int n).isWritable = false then
    .error .integerTooLong
  else
    let digits := Nat.toDigits base n.natAbs
    let filled := List.replicate (precision.getD 0 - digits.length) '0' ++ digits
    let body := if conversion = 'X' then filled.map Char.toUpper else filled
    let mark := if flags.alternate && base != 10 then ['0', conversion] else []
    .ok ⟨signText flags (n < 0), .ofChars mark, .ofChars body, true⟩

def floatFor (value : Value) : Except ValueFault Float :=
  match value.number? with
  | none => .error (.ofPattern (.realRequired value.kind))
  | some number =>
      match number.toFloat? with
      | some x => .ok x
      | none => .error .integerTooLargeForFloat

/-- A float as the conversion says, in six digits unless there is a precision. -/
def showFloat (conversion : Char) (flags : Flags) (precision : Option Nat) (x : Float) : Shown :=
  let style : RoundedStyle := ⟨flags.alternate, Value.floatStyle⟩
  let digits := precision.getD 6
  let write :=
    match conversion.toLower with
    | 'f' => style.fixed digits
    | 'e' => style.scientific digits
    | _ => style.general (max digits 1)
  let text := Magnitude.floatText write x
  let negative := text.head? == some '-'
  let unsigned := if negative then text.tail else text
  let body := if conversion.isUpper then unsigned.map Char.toUpper else unsigned
  ⟨signText flags negative, [], .ofChars body, true⟩

/-- The character that a value is, or whose number it is. -/
def showCharacter (value : Value) : Except ValueFault Shown :=
  match value, value.number? with
  | .str [point], _ => .ok ⟨[], [], [point], false⟩
  | _, some (.int n) =>
      match if n < 0 then none else CodePoint.ofCode? n.toNat with
      | some point => .ok ⟨[], [], [point], false⟩
      | none => .error (.ofPattern .characterOutOfRange)
  | _, _ => .error (.ofPattern .characterRequired)

def showWritten (precision : Option Nat) (value : Value) (text : Text) : Except ValueFault Shown :=
  if value.isWritable then .ok (showText precision text) else .error .integerTooLong

/-- A value as a conversion shows it; the position is that of the conversion. -/
def showValue (conversion : CodePoint) (position : Nat) (flags : Flags) (precision : Option Nat)
    (value : Value) : Except ValueFault Shown :=
  match conversion.toChar with
  | 's' => showWritten precision value value.text
  | 'r' => showWritten precision value value.quotedText
  | 'a' => showWritten precision value value.quotedText.asciiOnly
  | 'c' => showCharacter value
  | c =>
      if c ∈ ['d', 'i', 'u', 'o', 'x', 'X'] then do
        showInteger c flags precision (← integerFor c value)
      else if c ∈ ['e', 'E', 'f', 'F', 'g', 'G'] then do
        return showFloat c flags precision (← floatFor value)
      else
        .error (.ofPattern (.unknownConversion conversion position))

/-! ## Filling a pattern -/

def lookUp (mapping : Option Value) (name : Option Text) : Except ValueFault Value :=
  match mapping, name with
  | none, _ => .error (.ofPattern .mappingRequired)
  | some _, none => .error (.ofPattern .keyUnclosed)
  | some (.map entries), some name =>
      match Entries.get? entries (Value.str name) with
      | some value => .ok value
      | none => .error (.missingKey (.str name))
  | some _, some _ => .error (.ofPattern .listKey)

def takeValue : List Value → Except ValueFault (Value × List Value)
  | [] => .error (.ofPattern .valueMissing)
  | value :: rest => .ok (value, rest)

/-- Take the next of the values put in, which must be an integer between the given limits. -/
def takeAmount (least greatest : Int) (fault : PatternFault) (pending : List Value) :
    Except ValueFault (Int × List Value) := do
  let (value, rest) ← takeValue pending
  match value.number? with
  | some (.int n) =>
      if n < least ∨ greatest < n then throw (.ofPattern fault) else return (n, rest)
  | _ => throw (.ofPattern .amountNotInteger)

/-- The width of a place with the flags that follow from it: a negative width asks to fill up on the
right. -/
def widthOf (place : Place) (pending : List Value) :
    Except ValueFault (Nat × Flags × List Value) :=
  match place.width with
  | .absent => .ok (0, place.flags, pending)
  | .given n => .ok (n, place.flags, pending)
  | .tooBig => .error (.ofPattern .widthTooBig)
  | .asked => do
      let (n, rest) ← takeAmount (-greatestWidth - 1) greatestWidth .widthOutOfRange pending
      return (n.natAbs, if n < 0 then { place.flags with left := true } else place.flags, rest)

/-- The precision of a place.  A negative one counts as zero. -/
def precisionOf (place : Place) (pending : List Value) :
    Except ValueFault (Option Nat × List Value) :=
  match place.precision with
  | .absent => .ok (none, pending)
  | .given n => .ok (some n, pending)
  | .tooBig => .error (.ofPattern .precisionTooBig)
  | .asked => do
      let (n, rest) ←
        takeAmount (-greatestPrecision - 1) greatestPrecision .precisionOutOfRange pending
      return (some n.toNat, rest)

/-- More code points than fit into memory. -/
def tooLong : Nat :=
  0x100000000

/-- Fill a place.  The text comes with the values still to be put in. -/
def fillPlace (mapping : Option Value) (place : Place) (pending : List Value) :
    Except ValueFault (Text × List Value) := do
  let chosen ←
    match place.key with
    | .absent => .ok pending
    | .unclosed => (lookUp mapping none).map fun value => [value]
    | .named name => (lookUp mapping (some name)).map fun value => [value]
  let (width, flags, afterWidth) ← widthOf place chosen
  let (precision, afterPrecision) ← precisionOf place afterWidth
  match place.conversion with
  | none => throw (.ofPattern .incomplete)
  | some (conversion, position) =>
      let (value, rest) ← takeValue afterPrecision
      if tooLong ≤ max width (precision.getD 0) then
        throw (.ofPattern .textTooLong)
      let shown ← showValue conversion position flags precision value
      return (shown.fill flags width, rest)

def fillFrom (mapping : Option Value) : List Piece → List Value → Except ValueFault Text
  | [], pending =>
      if pending.isEmpty || mapping.isSome then .ok []
      else .error (.ofPattern .valueUnused)
  | .literal point :: rest, pending => do
      return point :: (← fillFrom mapping rest pending)
  | .place place :: rest, pending => do
      let (filled, others) ← fillPlace mapping place pending
      return filled ++ (← fillFrom mapping rest others)

/-- What is asked for keys, if anything: a list or a map. -/
def mappingOf? (value : Value) : Option Value :=
  match value with
  | .list _ | .map _ => some value
  | _ => none

/-- The values that are put in by one value: the items of a tuple, and otherwise the value
itself. -/
def valuesOf : Value → List Value
  | .tuple items => items
  | value => [value]

def fill (pattern : Text) (value : Value) : Except ValueFault Text :=
  fillFrom (mappingOf? value) (pieces pattern) (valuesOf value)

end Pattern

end RandomSearch
