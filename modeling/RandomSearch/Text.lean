/-!
# Texts

A text is a list of code points.  Besides characters these can be surrogates: halves of a pair that
would only together encode a character.  An escape in a document can name one alone, so that a text
has to keep it.
-/

namespace RandomSearch

/-- A code point: a character, or a surrogate that stands alone, given by its distance from the
first one. -/
inductive CodePoint where
  | scalar (c : Char)
  | surrogate (offset : Fin 0x800)
  deriving DecidableEq, Repr

namespace CodePoint

def firstSurrogate : Nat :=
  0xd800

def code : CodePoint → Nat
  | .scalar c => c.toNat
  | .surrogate offset => firstSurrogate + offset

def ofCode? (code : Nat) : Option CodePoint :=
  if h : code - firstSurrogate < 0x800 ∧ firstSurrogate ≤ code then
    some (.surrogate ⟨code - firstSurrogate, h.1⟩)
  else if code < 0x110000 then
    some (.scalar (Char.ofNat code))
  else
    none

/-- The character of a code point.  A surrogate has none, and the replacement character takes its
place. -/
def toChar : CodePoint → Char
  | .scalar c => c
  | .surrogate _ => '\ufffd'

def isChar (kind : Char → Bool) : CodePoint → Bool
  | .scalar c => kind c
  | .surrogate _ => false

end CodePoint

abbrev Text :=
  List CodePoint

namespace Text

def ofChars (characters : List Char) : Text :=
  characters.map .scalar

def ofString (s : String) : Text :=
  ofChars s.toList

def toChars (text : Text) : List Char :=
  text.map CodePoint.toChar

def toString (text : Text) : String :=
  String.ofList text.toChars

def joinWith (separator : Text) : List Text → Text
  | [] => []
  | [part] => part
  | part :: next :: rest => part ++ (separator ++ joinWith separator (next :: rest))

/-- The order of texts is that of the numbers of the first code points in which they differ. -/
def order : Text → Text → Ordering
  | [], [] => .eq
  | [], _ :: _ => .lt
  | _ :: _, [] => .gt
  | left :: lefts, right :: rights =>
      if left.code < right.code then .lt
      else if right.code < left.code then .gt
      else order lefts rights

def splitAt (isSeparator : CodePoint → Bool) : Text → List Text
  | [] => [[]]
  | point :: rest =>
      match splitAt isSeparator rest with
      | [] => [[point]]
      | part :: parts =>
          if isSeparator point then [] :: part :: parts else (point :: part) :: parts

@[simp]
theorem toChars_ofChars (characters : List Char) : (ofChars characters).toChars = characters := by
  induction characters with
  | nil => rfl
  | cons c rest inductionHypothesis =>
      simpa [ofChars, toChars, CodePoint.toChar] using inductionHypothesis

end Text

instance : Coe String Text :=
  ⟨Text.ofString⟩

end RandomSearch
