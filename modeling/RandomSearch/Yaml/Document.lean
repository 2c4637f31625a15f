import RandomSearch.Yaml.Node
import RandomSearch.Yaml.Plain

/-!
# YAML documents

A document is read as a value.  Sequences become lists and mappings become maps, whose keys must not
be lists or maps; of entries with the same key the last one counts, in the place of the first.

The parts of a document are looked at level by level: first those of the outermost sequence or
mapping, then those of the ones directly inside of it, and so on.  The first part without a value
decides what is wrong with the document.

Only a part of the language is read.  Anchors and aliases, tags, block scalars, directives and the
merging of mappings are refused as malformed, and a date or a time of day is a text.
-/

namespace RandomSearch.Yaml

namespace Node

/-! ## Levels -/

/-- Two lists of levels side by side, each level of the first before that of the second. -/
def beside {α : Type} : List (List α) → List (List α) → List (List α)
  | [], levels => levels
  | levels, [] => levels
  | left :: lefts, right :: rights => (left ++ right) :: beside lefts rights

mutual

/-- The sequences and mappings of a tree, level by level.  There are none inside of keys. -/
def levels : Node → List (List Node)
  | .sequence items => [.sequence items] :: itemLevels items
  | .mapping entries => [.mapping entries] :: entryLevels entries
  | _ => []
termination_by structural node => node

def itemLevels : List Node → List (List Node)
  | [] => []
  | item :: rest => beside item.levels (itemLevels rest)
termination_by structural items => items

def entryLevels : List (Node × Node) → List (List Node)
  | [] => []
  | (_, value) :: rest => beside value.levels (entryLevels rest)
termination_by structural entries => entries

end

/-! ## Checking -/

def isPlain (expected : List Char) : Node → Bool
  | .plainScalar text => text == expected
  | _ => false

/-- Whether a node is the lone equals sign, which is kept for other uses and can only stand as a
key. -/
def isEqualsSign (node : Node) : Bool :=
  node.isPlain ['=']

/-- Whether a node is the sign for merging mappings, which is not supported. -/
def isMergeSign (node : Node) : Bool :=
  node.isPlain ['<', '<']

def checkScalar : Node → Except Fault Unit
  | .plainScalar text => (plainValue text).map fun _ => ()
  | _ => .ok ()

def checkKey (node : Node) : Except Fault Unit :=
  match node with
  | .sequence _ | .mapping _ => .error .malformedYaml
  | _ => if node.isEqualsSign then .ok () else node.checkScalar

def checkParts : Node → Except Fault Unit
  | .sequence items => items.forM checkScalar
  | .mapping entries => do
      if entries.any fun entry => entry.1.isMergeSign then
        throw .malformedYaml
      entries.forM fun entry => do
        entry.1.checkKey
        entry.2.checkScalar
  | node => node.checkScalar

def check (node : Node) : Except Fault Unit := do
  node.checkScalar
  node.levels.flatten.forM checkParts

/-! ## Values -/

mutual

def toValue : Node → Except Fault Value
  | .plainScalar text => plainValue text
  | .quotedScalar text => .ok (.str text)
  | .sequence items => do return .list (← itemValues items)
  | .mapping entries => do return .map (← entryValues [] entries)
termination_by structural node => node

def itemValues : List Node → Except Fault (List Value)
  | [] => .ok []
  | item :: rest => do
      let value ← item.toValue
      let others ← itemValues rest
      return value :: others
termination_by structural items => items

/-- The entries of a mapping, put after those that came earlier. -/
def entryValues (earlier : List (Value × Value)) :
    List (Node × Node) → Except Fault (List (Value × Value))
  | [] => .ok earlier
  | (keyNode, valueNode) :: rest => do
      let key ← if keyNode.isEqualsSign then .ok (.str "=") else keyNode.toValue
      let value ← valueNode.toValue
      entryValues (Entries.putBy Value.sameKey key value earlier) rest
termination_by structural entries => entries

end

end Node

/-- A text with a line feed for every line break of one or two control characters. -/
def unifyBreaks : List Char → List Char
  | '\r' :: '\n' :: rest => '\n' :: unifyBreaks rest
  | '\r' :: rest => '\n' :: unifyBreaks rest
  | c :: rest => c :: unifyBreaks rest
  | [] => []

def isAllowed (c : Char) : Bool :=
  c = '\t' || c = '\n' || c = '\r' || (' ' ≤ c && c ≤ '~') || c = '\x85' ||
    ('\xa0' ≤ c && c ≤ '\ufffd') || 0x10000 ≤ c.toNat

def read (text : String) : Except Fault Value := do
  let characters := unifyBreaks text.toList
  if !characters.all isAllowed then
    throw .malformedYaml
  let node ← Node.ofTokens (← tokens characters)
  node.check
  node.toValue

end RandomSearch.Yaml
