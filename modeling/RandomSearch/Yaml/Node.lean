import RandomSearch.Yaml.Token

/-!
# YAML nodes

The tree that a list of tokens describes.  A part that is left out is an empty plain scalar.  A text
holds at most one document.
-/

namespace RandomSearch.Yaml

inductive Node where
  | plainScalar (text : List Char)
  | quotedScalar (text : Text)
  | sequence (items : List Node)
  | mapping (entries : List (Node × Node))

namespace Node

def empty : Node :=
  .plainScalar []

def nextIs (tokens : List Token) (expected : List Token) : Bool :=
  match tokens with
  | [] => false
  | token :: _ => expected.contains token

/-- The fault of tokens that begin with one that cannot stand there. -/
def refusal : List Token → Fault
  | .noCharacter code :: _ => .ofValue (.notACharacter code)
  | _ => .malformedYaml

inductive Place where
  | flow
  | block
  /-- In a block mapping, whose sequences need not be indented. -/
  | mapping
  deriving DecidableEq, Repr

/-- The tokens after the comma that separates entries in brackets.  None stands before the first
entry or before a closing bracket. -/
def separated (first : Bool) (tokens : List Token) : Except Fault (List Token) :=
  if first || nextIs tokens [.flowSequenceEnd, .flowMappingEnd] then
    .ok tokens
  else
    match tokens with
    | .flowEntry :: rest => .ok rest
    | _ => .error (refusal tokens)

mutual

/-- Read a node.  The result comes with the tokens after it. -/
def read (place : Place) (fuel : Nat) (tokens : List Token) : Except Fault (Node × List Token) :=
  match fuel with
  | 0 => .error .malformedYaml
  | fuel + 1 =>
      match tokens with
      | .plainScalar text :: rest => .ok (.plainScalar text, rest)
      | .quotedScalar text :: rest => .ok (.quotedScalar text, rest)
      | .flowSequenceStart :: rest => do
          let (items, after) ← readFlowItems true fuel rest
          return (.sequence items, after)
      | .flowMappingStart :: rest => do
          let (entries, after) ← readFlowEntries true fuel rest
          return (.mapping entries, after)
      | .blockSequenceStart :: rest =>
          if place = .flow then
            .error .malformedYaml
          else do
            let (items, after) ← readBlockItems fuel rest
            return (.sequence items, after)
      | .blockMappingStart :: rest =>
          if place = .flow then
            .error .malformedYaml
          else do
            let (entries, after) ← readBlockEntries fuel rest
            return (.mapping entries, after)
      | .blockEntry :: _ =>
          if place = .mapping then do
            let (items, after) ← readOpenItems fuel tokens
            return (.sequence items, after)
          else
            .error .malformedYaml
      | _ => .error (refusal tokens)

/-- Read a node, unless one of the given tokens shows that it is left out. -/
def readUnless (ends : List Token) (place : Place) (fuel : Nat) (tokens : List Token) :
    Except Fault (Node × List Token) :=
  match fuel with
  | 0 => .error .malformedYaml
  | fuel + 1 =>
      if nextIs tokens ends then .ok (.empty, tokens) else read place fuel tokens

def readValue (ends : List Token) (place : Place) (fuel : Nat) (tokens : List Token) :
    Except Fault (Node × List Token) :=
  match fuel with
  | 0 => .error .malformedYaml
  | fuel + 1 =>
      match tokens with
      | .value :: rest => readUnless ends place fuel rest
      | _ => .ok (.empty, tokens)

def readBlockItems (fuel : Nat) (tokens : List Token) :
    Except Fault (List Node × List Token) :=
  match fuel with
  | 0 => .error .malformedYaml
  | fuel + 1 =>
      match tokens with
      | .blockEntry :: rest => do
          let (item, afterItem) ← readUnless [.blockEntry, .blockEnd] .block fuel rest
          let (items, after) ← readBlockItems fuel afterItem
          return (item :: items, after)
      | .blockEnd :: rest => .ok ([], rest)
      | _ => .error (refusal tokens)

/-- Read the remaining items of a sequence that is not indented. -/
def readOpenItems (fuel : Nat) (tokens : List Token) :
    Except Fault (List Node × List Token) :=
  match fuel with
  | 0 => .error .malformedYaml
  | fuel + 1 =>
      match tokens with
      | .blockEntry :: rest => do
          let (item, afterItem) ←
            readUnless [.blockEntry, .key, .value, .blockEnd] .block fuel rest
          let (items, after) ← readOpenItems fuel afterItem
          return (item :: items, after)
      | _ => .ok ([], tokens)

def readBlockEntries (fuel : Nat) (tokens : List Token) :
    Except Fault (List (Node × Node) × List Token) :=
  match fuel with
  | 0 => .error .malformedYaml
  | fuel + 1 =>
      match tokens with
      | .key :: rest => do
          let ends := [.key, .value, .blockEnd]
          let (key, afterKey) ← readUnless ends .mapping fuel rest
          let (value, afterValue) ← readValue ends .mapping fuel afterKey
          let (entries, after) ← readBlockEntries fuel afterValue
          return ((key, value) :: entries, after)
      | .blockEnd :: rest => .ok ([], rest)
      | _ => .error (refusal tokens)

def readFlowItems (first : Bool) (fuel : Nat) (tokens : List Token) :
    Except Fault (List Node × List Token) :=
  match fuel with
  | 0 => .error .malformedYaml
  | fuel + 1 => do
      match ← separated first tokens with
      | .flowSequenceEnd :: rest => return ([], rest)
      | .key :: rest =>
          let (key, afterKey) ←
            readUnless [.value, .flowEntry, .flowSequenceEnd] .flow fuel rest
          let (value, afterValue) ← readValue [.flowEntry, .flowSequenceEnd] .flow fuel afterKey
          let (items, after) ← readFlowItems false fuel afterValue
          return (.mapping [(key, value)] :: items, after)
      | rest =>
          let (item, afterItem) ← read .flow fuel rest
          let (items, after) ← readFlowItems false fuel afterItem
          return (item :: items, after)

def readFlowEntries (first : Bool) (fuel : Nat) (tokens : List Token) :
    Except Fault (List (Node × Node) × List Token) :=
  match fuel with
  | 0 => .error .malformedYaml
  | fuel + 1 => do
      match ← separated first tokens with
      | .flowMappingEnd :: rest => return ([], rest)
      | .key :: rest =>
          let (key, afterKey) ←
            readUnless [.value, .flowEntry, .flowMappingEnd] .flow fuel rest
          let (value, afterValue) ← readValue [.flowEntry, .flowMappingEnd] .flow fuel afterKey
          let (entries, after) ← readFlowEntries false fuel afterValue
          return ((key, value) :: entries, after)
      | rest =>
          let (key, afterKey) ← read .flow fuel rest
          let (entries, after) ← readFlowEntries false fuel afterKey
          return ((key, .empty) :: entries, after)

end

/-- The rest of a text after its document: marks for its end, and nothing else. -/
def checkEnd (tokens : List Token) : Except Fault Unit :=
  let after := tokens.dropWhile (· == .documentEnd)
  if after.isEmpty then .ok () else .error (refusal after)

def ofTokens (tokens : List Token) : Except Fault Node := do
  let fuel := 4 * tokens.length + 4
  let (node, rest) ←
    match tokens with
    | [] | [.documentStart] => .ok (empty, [])
    | .documentStart :: rest => readUnless [.documentStart, .documentEnd] .block fuel rest
    | _ => read .block fuel tokens
  checkEnd rest
  return node

end Node

end RandomSearch.Yaml
