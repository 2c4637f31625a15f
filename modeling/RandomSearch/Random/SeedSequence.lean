import RandomSearch.Value.Convert

/-!
# Seed sequences

A seed sequence turns entropy of any size into as many well mixed words as a generator needs.  It
can have children, numbered from zero on and never twice; a child shares the entropy and adds its
number to the key of its parent.  All words have thirty-two bits and arithmetic on them wraps.
-/

namespace RandomSearch

/-- The thirty-two bit words of a number, the lowest first.  Zero has one word. -/
def wordsOf (n : Nat) : List UInt32 :=
  if n < 0x100000000 then
    [UInt32.ofNat n]
  else
    UInt32.ofNat n :: wordsOf (n / 0x100000000)
termination_by n
decreasing_by omega

theorem wordsOf_of_lt {n : Nat} (small : n < 0x100000000) : wordsOf n = [UInt32.ofNat n] := by
  rw [wordsOf, if_pos small]

/-! ## Mixing -/

/-- Hash a word under a running key: the hash, and the key that follows. -/
def hashWord (multiplier key word : UInt32) : UInt32 × UInt32 :=
  let next := key * multiplier
  let product := (word ^^^ key) * next
  (product ^^^ (product >>> 16), next)

def mixWord (word hashed : UInt32) : UInt32 :=
  let difference := word * 0xca01f9dd - hashed * 0x4973f715
  difference ^^^ (difference >>> 16)

/-- The pool of mixed words, with the running key of its hash. -/
structure EntropyPool where
  words : List UInt32
  key : UInt32
  deriving DecidableEq, Repr

namespace EntropyPool

def size : Nat :=
  4

def hash (key word : UInt32) : UInt32 × UInt32 :=
  hashWord 0x931e8875 key word

/-- Hash the first words of the entropy, with zeros after its end, into as many places as are to be
filled. -/
def fill (key : UInt32) : Nat → List UInt32 → EntropyPool
  | 0, _ => ⟨[], key⟩
  | places + 1, entropy =>
      let (hashed, next) := hash key (entropy.headD 0)
      let rest := fill next places entropy.tail
      ⟨hashed :: rest.words, rest.key⟩

/-- Mix a word into all places from the given position on, except into the place it comes from. -/
def stirFrom (source : Nat) (word : UInt32) (position : Nat) (key : UInt32) :
    List UInt32 → EntropyPool
  | [] => ⟨[], key⟩
  | present :: rest =>
      if position = source then
        let stirred := stirFrom source word (position + 1) key rest
        ⟨present :: stirred.words, stirred.key⟩
      else
        let (hashed, next) := hash key word
        let stirred := stirFrom source word (position + 1) next rest
        ⟨mixWord present hashed :: stirred.words, stirred.key⟩

/-- Mix a word from outside the pool into all of its places. -/
def absorb (pool : EntropyPool) (word : UInt32) : EntropyPool :=
  stirFrom size word 0 pool.key pool.words

def spread (pool : EntropyPool) (source : Nat) : EntropyPool :=
  stirFrom source (pool.words.getD source 0) 0 pool.key pool.words

/-- The pool of some entropy: its first words are hashed, then each is mixed into the others, then
the remaining words are mixed into all. -/
def ofEntropy (entropy : List UInt32) : EntropyPool :=
  let filled := fill 0x43b0d7e5 size entropy
  let spreadOut := (List.range size).foldl spread filled
  (entropy.drop size).foldl absorb spreadOut

def outputFrom (words : List UInt32) (position : Nat) (key : UInt32) : Nat → List UInt32
  | 0 => []
  | count + 1 =>
      let (word, next) := hashWord 0x58f38ded key (words.getD (position % size) 0)
      word :: outputFrom words (position + 1) next count

def output (pool : EntropyPool) (count : Nat) : List UInt32 :=
  outputFrom pool.words 0 0x8b51f9dd count

end EntropyPool

/-! ## Sequences -/

/-- The words of entropy that is an integer, a text that writes one in decimal or after `0x` in
hexadecimal, or a list of such entropy. -/
def entropyWords (entropy : Value) : Except Fault (List UInt32) :=
  match entropy with
  | .list items | .tuple items => wordsOfItems items
  | .float _ => .error (.ofStream .fractionalEntropy)
  | .str s =>
      match s with
      | .scalar '0' :: .scalar 'x' :: _ =>
          match Text.readHexadecimal? s.toChars with
          | some n => .ok (wordsOf n)
          | none => .error (.ofValue (.notIntegerText 16 s))
      | .scalar first :: _ =>
          if first.isDigit then do wordsOfInteger (← entropy.toInteger)
          else .error (.ofStream .entropyText)
      | _ => .error (.ofStream .entropyText)
  | .map entries => wordsOfKeys entries
  | _ =>
      match entropy.number? with
      | some (.int n) => wordsOfInteger n
      | _ => .error (.ofValue (.noLength entropy.kind))
where
  /-- The words of an integer, which must not be negative. -/
  wordsOfInteger : Int → Except Fault (List UInt32)
    | .ofNat n => .ok (wordsOf n)
    | .negSucc _ => .error (.ofStream .negativeEntropy)
  wordsOfItems : List Value → Except Fault (List UInt32)
    | [] => .ok []
    | item :: rest => do
        let words ← entropyWords item
        let others ← wordsOfItems rest
        return words ++ others
  wordsOfKeys : List (Value × Value) → Except Fault (List UInt32)
    | [] => .ok []
    | (key, _) :: rest => do
        let words ← entropyWords key
        let others ← wordsOfKeys rest
        return words ++ others

/-- A seed sequence, with the number of children it has had. -/
structure SeedSequence where
  entropy : Value
  words : List UInt32
  spawnKey : List Nat
  children : Nat

namespace SeedSequence

/-- The sequence of some entropy under a key.  Where no entropy is given, zero stands in for it. -/
def ofEntropy (entropy : Value) (spawnKey : List Nat) : Except Fault SeedSequence :=
  match entropy with
  | .null => .ok ⟨.int 0, wordsOf 0, spawnKey, 0⟩
  | .bool _ | .int _ | .list _ | .tuple _ => do
      return ⟨entropy, ← entropyWords entropy, spawnKey, 0⟩
  | _ => .error (.writing [entropy] (.ofStream (.notEntropy entropy)))

/-- The words to be mixed: those of the entropy, filled up to the size of the pool if a key follows,
and those of the key. -/
def assembled (sequence : SeedSequence) : List UInt32 :=
  let key := sequence.spawnKey.flatMap wordsOf
  if key.isEmpty then
    sequence.words
  else
    sequence.words ++ List.replicate (EntropyPool.size - sequence.words.length) 0 ++ key

def output (sequence : SeedSequence) (count : Nat) : List UInt32 :=
  (EntropyPool.ofEntropy sequence.assembled).output count

def child (sequence : SeedSequence) (number : Nat) : SeedSequence :=
  ⟨sequence.entropy, sequence.words, sequence.spawnKey ++ [number], 0⟩

/-- The next children, and the sequence that has had them. -/
def spawn (sequence : SeedSequence) (count : Nat) : List SeedSequence × SeedSequence :=
  ((List.range count).map fun offset => sequence.child (sequence.children + offset),
    { sequence with children := sequence.children + count })

@[simp]
theorem length_spawn (sequence : SeedSequence) (count : Nat) :
    (sequence.spawn count).1.length = count := by
  simp [spawn]

end SeedSequence

end RandomSearch
