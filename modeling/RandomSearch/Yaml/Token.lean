import RandomSearch.Yaml.Scalar

/-!
# YAML tokens

The tokens of a YAML text: scalars, the marks of documents, and the starts, ends and entries of
sequences and mappings.  Outside of brackets the starts and ends follow from the columns in which
things stand.  A scalar or bracket can turn out to be a key only at the colon after it, which must
follow on the same line and within 1024 characters; the token for the key is then put before it.

Tokens are asked for one by one, and a token that can still turn out to be a key is not given out
before that is settled.  This matters where an escape names no character: the tokens before it can
be used, as far as they are settled.
-/

namespace RandomSearch.Yaml

inductive Token where
  | documentStart
  | documentEnd
  | blockSequenceStart
  | blockMappingStart
  | blockEnd
  | flowSequenceStart
  | flowSequenceEnd
  | flowMappingStart
  | flowMappingEnd
  | blockEntry
  | flowEntry
  | key
  | value
  | plainScalar (text : List Char)
  | quotedScalar (text : Text)
  /-- A scalar with an escape that names no character. -/
  | noCharacter (code : Nat)
  deriving DecidableEq, Repr

/-- A place where a key may have begun. -/
structure PossibleKey where
  tokensBefore : Nat
  /-- Whether what stands there can only be a key. -/
  required : Bool
  index : Nat
  line : Nat
  column : Nat

structure Scan where
  cursor : Cursor
  tokens : Array Token
  /-- The column of the innermost open block, and those of the blocks around it. -/
  indent : Int
  outerIndents : List Int
  flowLevel : Nat
  keyAllowed : Bool
  /-- The places where keys may have begun, by the number of open brackets. -/
  possibleKeys : List (Nat × PossibleKey)

namespace Scan

def start (text : List Char) : Scan :=
  ⟨Cursor.start text, #[], -1, [], 0, true, []⟩

def inFlow (scan : Scan) : Bool :=
  scan.flowLevel != 0

def emit (token : Token) (scan : Scan) : Scan :=
  { scan with tokens := scan.tokens.push token }

def insertAfter (count : Nat) (token : Token) (scan : Scan) : Scan :=
  { scan with tokens := scan.tokens.insertIdxIfInBounds count token }

def skip (count : Nat) (scan : Scan) : Scan :=
  { scan with cursor := scan.cursor.skip count }

/-! ## Possible keys -/

def possibleKey? (scan : Scan) : Option PossibleKey :=
  scan.possibleKeys.lookup scan.flowLevel

def forgetKey (scan : Scan) : Scan :=
  { scan with possibleKeys := scan.possibleKeys.filter fun entry => entry.1 != scan.flowLevel }

def dropKey (scan : Scan) : Except Fault Scan :=
  match scan.possibleKey? with
  | none => .ok scan
  | some possible => if possible.required then .error .malformedYaml else .ok scan.forgetKey

/-- Whether a key that began at some place would be too long by now. -/
def isStale (scan : Scan) (possible : PossibleKey) : Bool :=
  possible.line != scan.cursor.line || possible.index + 1024 < scan.cursor.index

def dropStaleKeys (scan : Scan) : Except Fault Scan :=
  if scan.possibleKeys.any fun entry => scan.isStale entry.2 && entry.2.required then
    .error .malformedYaml
  else
    .ok { scan with
      possibleKeys := scan.possibleKeys.filter fun entry => !scan.isStale entry.2 }

/-- Note that a key may begin here, if one may. -/
def noteKey (scan : Scan) : Except Fault Scan :=
  if scan.keyAllowed then do
    let dropped ← scan.dropKey
    let cursor := scan.cursor
    let required := !scan.inFlow && scan.indent == cursor.column
    let possible : PossibleKey :=
      ⟨scan.tokens.size, required, cursor.index, cursor.line, cursor.column⟩
    return { dropped with possibleKeys := (scan.flowLevel, possible) :: dropped.possibleKeys }
  else
    .ok scan

/-! ## Blocks -/

def closeBlocks (column : Int) (fuel : Nat) (scan : Scan) : Scan :=
  match fuel with
  | 0 => scan
  | fuel + 1 =>
      if scan.inFlow || decide (scan.indent ≤ column) then
        scan
      else
        closeBlocks column fuel
          { scan.emit .blockEnd with
            indent := scan.outerIndents.headD (-1), outerIndents := scan.outerIndents.tail }

def unwind (column : Int) (scan : Scan) : Scan :=
  closeBlocks column (scan.outerIndents.length + 1) scan

/-- Open a block at a column, unless one is open there or further to the right.  It is told whether
one was opened. -/
def openBlock (column : Int) (scan : Scan) : Bool × Scan :=
  if scan.indent < column then
    (true, { scan with indent := column, outerIndents := scan.indent :: scan.outerIndents })
  else
    (false, scan)

/-- Open a block at the present column, outside of brackets, where a key may begin. -/
def openHere (token : Token) (scan : Scan) : Except Fault Scan :=
  if scan.inFlow then
    .ok scan
  else if scan.keyAllowed then
    let (opened, next) := scan.openBlock scan.cursor.column
    .ok (if opened then next.emit token else next)
  else
    .error .malformedYaml

/-! ## Tokens -/

def skipBlanks (fuel : Nat) (scan : Scan) : Scan :=
  match fuel with
  | 0 => scan
  | fuel + 1 =>
      let (_, afterSpaces) := scan.cursor.takeWhile (· = ' ')
      let after :=
        if startsWith ['#'] afterSpaces.rest then
          (afterSpaces.takeWhile fun c => !isBreak c).2
        else
          afterSpaces
      match after.rest with
      | c :: _ =>
          if isBreak c then
            skipBlanks fuel
              { scan with cursor := after.advance, keyAllowed := scan.keyAllowed || !scan.inFlow }
          else
            { scan with cursor := after }
      | [] => { scan with cursor := after }

def documentMark (token : Token) (scan : Scan) : Except Fault Scan := do
  let dropped ← (scan.unwind (-1)).dropKey
  return { (dropped.skip 3).emit token with keyAllowed := false }

def openFlow (token : Token) (scan : Scan) : Except Fault Scan := do
  let noted ← scan.noteKey
  return { (noted.skip 1).emit token with flowLevel := noted.flowLevel + 1, keyAllowed := true }

def closeFlow (token : Token) (scan : Scan) : Except Fault Scan := do
  let dropped ← scan.dropKey
  return { (dropped.skip 1).emit token with
    flowLevel := dropped.flowLevel - 1, keyAllowed := false }

def flowEntry (scan : Scan) : Except Fault Scan := do
  let dropped ← { scan with keyAllowed := true }.dropKey
  return (dropped.skip 1).emit .flowEntry

def blockEntry (scan : Scan) : Except Fault Scan := do
  let opened ← scan.openHere .blockSequenceStart
  let dropped ← { opened with keyAllowed := true }.dropKey
  return (dropped.skip 1).emit .blockEntry

def explicitKey (scan : Scan) : Except Fault Scan := do
  let opened ← scan.openHere .blockMappingStart
  let dropped ← { opened with keyAllowed := !opened.inFlow }.dropKey
  return (dropped.skip 1).emit .key

/-- A colon before a value.  If a key may have begun before, it is one. -/
def valueMark (scan : Scan) : Except Fault Scan :=
  match scan.possibleKey? with
  | some possible =>
      let keyed := scan.forgetKey.insertAfter possible.tokensBefore .key
      let (opened, next) := if scan.inFlow then (false, keyed) else keyed.openBlock possible.column
      let mapped :=
        if opened then next.insertAfter possible.tokensBefore .blockMappingStart else next
      .ok { (mapped.skip 1).emit .value with keyAllowed := false }
  | none => do
      let opened ← scan.openHere .blockMappingStart
      let dropped ← { opened with keyAllowed := !opened.inFlow }.dropKey
      return (dropped.skip 1).emit .value

def quotedScalar (quote : Char) (scan : Scan) : Except Fault Scan := do
  let noted ← scan.noteKey
  let (text, next) ← readQuoted quote noted.cursor
  return { noted.emit (.quotedScalar text) with cursor := next, keyAllowed := false }

def plainScalar (scan : Scan) : Except Fault Scan := do
  let noted ← scan.noteKey
  let scalar := readPlain noted.inFlow (noted.indent + 1) noted.cursor
  return { noted.emit (.plainScalar scalar.text) with
    cursor := scalar.cursor, keyAllowed := scalar.newLine }

def finish (scan : Scan) : Except Fault Scan :=
  (scan.unwind (-1)).dropKey

/-- The characters with which a plain scalar never begins. -/
def indicators : List Char :=
  ['-', '?', ':', ',', '[', ']', '\x7b', '\x7d', '#', '&', '*', '!', '|', '>', '\'', '"', '%',
   '@', '`']

/-- Whether a plain scalar can begin with a character, where `rest` follows the character. -/
def beginsPlain (inFlow : Bool) (c : Char) (rest : List Char) : Bool :=
  !(isGap c || indicators.contains c) ||
    (!startsGap rest && (c = '-' || (!inFlow && (c = '?' || c = ':'))))

def readToken (c : Char) (rest : List Char) (scan : Scan) : Except Fault Scan :=
  let text := c :: rest
  let atMargin := scan.cursor.column = 0
  if atMargin ∧ c = '%' then .error .malformedYaml
  else if atMargin ∧ startsMark startMark text = true then scan.documentMark .documentStart
  else if atMargin ∧ startsMark endMark text = true then scan.documentMark .documentEnd
  else if c = '[' then scan.openFlow .flowSequenceStart
  else if c = '\x7b' then scan.openFlow .flowMappingStart
  else if c = ']' then scan.closeFlow .flowSequenceEnd
  else if c = '\x7d' then scan.closeFlow .flowMappingEnd
  else if c = ',' then scan.flowEntry
  else if c = '-' ∧ startsGap rest = true then scan.blockEntry
  else if c = '?' ∧ (scan.inFlow || startsGap rest) = true then scan.explicitKey
  else if c = ':' ∧ (scan.inFlow || startsGap rest) = true then scan.valueMark
  else if c = '\'' ∨ c = '"' then scan.quotedScalar c
  else if beginsPlain scan.inFlow c rest then scan.plainScalar
  else .error .malformedYaml

/-- How many tokens are settled: those before the first that can still turn out to be a key. -/
def settled (scan : Scan) : Nat :=
  (scan.possibleKeys.filter fun entry => !scan.isStale entry.2).foldl
    (fun least entry => min least entry.2.tokensBefore) scan.tokens.size

/-- Break off before a scalar with an escape that names no character. -/
def breakOff (code : Nat) (scan : Scan) : Scan :=
  { scan with tokens := (scan.tokens.take scan.settled).push (.noCharacter code) }

/-- Read the remaining tokens.  Every round reads at least one character. -/
def readFrom (fuel : Nat) (scan : Scan) : Except Fault Scan :=
  match fuel with
  | 0 => .error .malformedYaml
  | fuel + 1 => do
      let fresh ← (scan.skipBlanks (scan.cursor.rest.length + 1)).dropStaleKeys
      let unwound := fresh.unwind fresh.cursor.column
      match unwound.cursor.rest with
      | [] => unwound.finish
      | c :: rest =>
          match unwound.readToken c rest with
          | .ok next => readFrom fuel next
          | .error (.ofValue (.notACharacter code)) => .ok (scan.breakOff code)
          | .error fault => .error fault

end Scan

def tokens (text : List Char) : Except Fault (List Token) := do
  let body :=
    match text with
    | '\ufeff' :: rest => rest
    | _ => text
  let scan ← (Scan.start body).readFrom (body.length + 1)
  return scan.tokens.toList

end RandomSearch.Yaml
