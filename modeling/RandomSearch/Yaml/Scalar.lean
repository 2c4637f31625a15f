import RandomSearch.Text.Digit
import RandomSearch.Yaml.Cursor

/-!
# The text of scalars

A plain scalar stands without quotes and ends where something else begins.  A quoted scalar ends at
the quote that closes it; between double quotes a backslash gives some characters another meaning.
In both, a line break between words counts as a space.
-/

namespace RandomSearch.Yaml

/-! ## Plain scalars -/

/-- The characters that end a plain scalar inside of brackets. -/
def flowEnds : List Char :=
  [',', '?', '[', ']', '\x7b', '\x7d']

/-- The characters before which a colon ends a plain scalar inside of brackets. -/
def flowMarks : List Char :=
  [',', '[', ']', '\x7b', '\x7d']

def endsPlain (inFlow : Bool) (c : Char) (rest : List Char) : Bool :=
  isGap c || (c = ':' && (startsGap rest || (inFlow && startsWith flowMarks rest))) ||
    (inFlow && flowEnds.contains c)

def plainWordLength (inFlow : Bool) : List Char → Nat
  | [] => 0
  | c :: rest => if endsPlain inFlow c rest then 0 else plainWordLength inFlow rest + 1

/-- Go past line breaks and the spaces between them.  It is told which line breaks there were,
unless a mark between documents was met. -/
def plainBreaks (fuel : Nat) (cursor : Cursor) : Option (List Char) × Cursor :=
  match fuel with
  | 0 => (some [], cursor)
  | fuel + 1 =>
      match cursor.rest with
      | [] => (some [], cursor)
      | c :: _ =>
          if c = ' ' then
            plainBreaks fuel cursor.advance
          else if isBreak c then
            if startsDocumentMark cursor.advance.rest then
              (none, cursor.advance)
            else
              let others := plainBreaks fuel cursor.advance
              (others.1.map (keptBreak c :: ·), others.2)
          else
            (some [], cursor)

structure PlainGap where
  text : List Char
  /-- Whether a new line was begun. -/
  newLine : Bool
  cursor : Cursor

def plainGap (cursor : Cursor) : PlainGap :=
  let (spaces, after) := cursor.takeWhile (· = ' ')
  match after.rest with
  | c :: _ =>
      if isBreak c then
        if startsDocumentMark after.advance.rest then
          ⟨[], true, after.advance⟩
        else
          match plainBreaks after.rest.length after.advance with
          | (none, last) => ⟨[], true, last⟩
          | (some others, last) => ⟨foldBreaks c others, true, last⟩
      else
        ⟨spaces, false, after⟩
  | [] => ⟨spaces, false, after⟩

structure PlainScalar where
  text : List Char
  /-- Whether a new line was begun after its last word. -/
  newLine : Bool
  cursor : Cursor

/-- Read the words of a plain scalar, which must stand at least in the given column unless they are
inside of brackets. -/
def plainWords (inFlow : Bool) (column : Int) (fuel : Nat) (earlier : PlainScalar)
    (gap : List Char) : PlainScalar :=
  match fuel with
  | 0 => earlier
  | fuel + 1 =>
      let rest := earlier.cursor.rest
      let length := if startsWith ['#'] rest then 0 else plainWordLength inFlow rest
      if length = 0 then
        earlier
      else
        let next := plainGap (earlier.cursor.skip length)
        let scalar := ⟨earlier.text ++ gap ++ rest.take length, next.newLine, next.cursor⟩
        if next.text.isEmpty || startsWith ['#'] next.cursor.rest ||
            (!inFlow && decide (next.cursor.column < column)) then
          scalar
        else
          plainWords inFlow column fuel scalar next.text

def readPlain (inFlow : Bool) (column : Int) (cursor : Cursor) : PlainScalar :=
  plainWords inFlow column cursor.rest.length ⟨[], false, cursor⟩ []

/-! ## Quoted scalars -/

/-- What a character after a backslash stands for. -/
def escapes : List (Char × Char) :=
  [('0', '\x00'), ('a', '\x07'), ('b', '\x08'), ('t', '\t'), ('\t', '\t'), ('n', '\n'),
   ('v', '\x0b'), ('f', '\x0c'), ('r', '\x0d'), ('e', '\x1b'), (' ', ' '), ('"', '"'),
   ('\\', '\\'), ('/', '/'), ('N', '\x85'), ('_', '\xa0'), ('L', '\u2028'), ('P', '\u2029')]

/-- How many hexadecimal digits follow a character after a backslash that gives the number of a
character. -/
def codeLengths : List (Char × Nat) :=
  [('x', 2), ('u', 4), ('U', 8)]

def codePointOf (length : Nat) (digits : List Char) : Except Fault CodePoint :=
  match (digits.take length).mapM RandomSearch.Text.hexDigit? with
  | none => .error .malformedYaml
  | some values =>
      if values.length < length then
        .error .malformedYaml
      else
        let code := values.foldl (fun total value => 16 * total + value) 0
        match CodePoint.ofCode? code with
        | some point => .ok point
        | none => .error (.ofValue (.notACharacter code))

/-- Go past the blank lines inside of a quoted scalar, and tell which line breaks there were.  A
mark between documents must not be among them. -/
def quotedBreaks (fuel : Nat) (cursor : Cursor) : Except Fault (List Char × Cursor) :=
  match fuel with
  | 0 => .ok ([], cursor)
  | fuel + 1 =>
      if startsDocumentMark cursor.rest then
        .error .malformedYaml
      else
        let (_, after) := cursor.takeWhile isSpace
        match after.rest with
        | [] => .ok ([], after)
        | c :: _ =>
            if isBreak c then do
              let (others, last) ← quotedBreaks fuel after.advance
              return (keptBreak c :: others, last)
            else
              .ok ([], after)

def readEscape (cursor : Cursor) : Except Fault (Text × Cursor) :=
  match cursor.rest with
  | [] => .error .malformedYaml
  | c :: rest =>
      match escapes.lookup c, codeLengths.lookup c with
      | some meaning, _ => .ok ([.scalar meaning], cursor.advance)
      | none, some length => do
          let point ← codePointOf length rest
          return ([point], cursor.skip (length + 1))
      | none, none =>
          if isBreak c then do
            let (breaks, next) ← quotedBreaks rest.length.succ cursor.advance
            return (.ofChars breaks, next)
          else
            .error .malformedYaml

def quotedGap (cursor : Cursor) : Except Fault (List Char × Cursor) :=
  let (spaces, after) := cursor.takeWhile isSpace
  match after.rest with
  | [] => .error .malformedYaml
  | c :: rest =>
      if isBreak c then do
        let (others, last) ← quotedBreaks rest.length.succ after.advance
        return (foldBreaks c others, last)
      else
        .ok (spaces, after)

/-- Read a quoted scalar up to the quote that closes it.  What was read before is listed
backwards. -/
def quotedFrom (quote : Char) (fuel : Nat) (earlier : Text) (cursor : Cursor) :
    Except Fault (Text × Cursor) :=
  match fuel with
  | 0 => .error .malformedYaml
  | fuel + 1 =>
      match cursor.rest with
      | [] => .error .malformedYaml
      | c :: rest =>
          if c = quote then
            if quote = '\'' ∧ startsWith [quote] rest = true then
              quotedFrom quote fuel (.scalar quote :: earlier) (cursor.skip 2)
            else
              .ok (earlier.reverse, cursor.advance)
          else if quote = '"' ∧ c = '\\' then do
            let (meaning, next) ← readEscape cursor.advance
            quotedFrom quote fuel (meaning.reverse ++ earlier) next
          else if isGap c then do
            let (gap, next) ← quotedGap cursor
            quotedFrom quote fuel ((Text.ofChars gap).reverse ++ earlier) next
          else
            quotedFrom quote fuel (.scalar c :: earlier) cursor.advance

def readQuoted (quote : Char) (cursor : Cursor) : Except Fault (Text × Cursor) :=
  quotedFrom quote cursor.rest.length [] cursor.advance

end RandomSearch.Yaml
