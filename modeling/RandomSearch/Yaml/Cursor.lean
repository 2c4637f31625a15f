import RandomSearch.Fault

/-!
# A place in a YAML text

A cursor knows what is left of the text and on which line and in which column it stands.  Lines end
at a line feed, at the control for a next line, and at the separators of lines and paragraphs.
-/

namespace RandomSearch.Yaml

structure Cursor where
  rest : List Char
  index : Nat
  line : Nat
  column : Nat

def isBreak (c : Char) : Bool :=
  c = '\n' || c = '\x85' || c = '\u2028' || c = '\u2029'

def isSpace (c : Char) : Bool :=
  c = ' ' || c = '\t'

def isGap (c : Char) : Bool :=
  isSpace c || isBreak c

/-- Whether a text is at its end or begins with a character that separates words. -/
def startsGap : List Char → Bool
  | [] => true
  | c :: _ => isGap c

def startsWith (characters : List Char) : List Char → Bool
  | [] => false
  | c :: _ => characters.contains c

/-- Whether a text begins with the given mark and a gap after it. -/
def startsMark (mark : List Char) (text : List Char) : Bool :=
  mark.isPrefixOf text && startsGap (text.drop mark.length)

def startMark : List Char :=
  ['-', '-', '-']

def endMark : List Char :=
  ['.', '.', '.']

def startsDocumentMark (text : List Char) : Bool :=
  startsMark startMark text || startsMark endMark text

def keptBreak (c : Char) : Char :=
  if c = '\x85' then '\n' else c

/-- What is left of line breaks between words: a single ordinary one counts as a space, and of
several the first is dropped. -/
def foldBreaks (first : Char) (others : List Char) : List Char :=
  if keptBreak first ≠ '\n' then keptBreak first :: others
  else if others.isEmpty then [' ']
  else others

namespace Cursor

def start (text : List Char) : Cursor :=
  ⟨text, 0, 0, 0⟩

/-- Go past a character.  A mark of the byte order takes no room. -/
def advance (cursor : Cursor) : Cursor :=
  match cursor.rest with
  | [] => cursor
  | c :: rest =>
      if isBreak c then ⟨rest, cursor.index + 1, cursor.line + 1, 0⟩
      else if c = '\ufeff' then ⟨rest, cursor.index + 1, cursor.line, cursor.column⟩
      else ⟨rest, cursor.index + 1, cursor.line, cursor.column + 1⟩

def skip : Nat → Cursor → Cursor
  | 0, cursor => cursor
  | count + 1, cursor => skip count cursor.advance

def takeWhile (kind : Char → Bool) (cursor : Cursor) : List Char × Cursor :=
  let taken := cursor.rest.takeWhile kind
  (taken, cursor.skip taken.length)

end Cursor

end RandomSearch.Yaml
