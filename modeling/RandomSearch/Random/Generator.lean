import RandomSearch.Random.SeedSequence

/-!
# The generator

A linear congruential generator of 128 bits.  After every step the two halves of the state are
joined by exclusive or and rotated by its six highest bits, which makes a word of sixty-four bits.
A word of thirty-two bits is half of such a word, the low half first; the other half is kept for the
next request.
-/

namespace RandomSearch

/-- The state of a generator, with the half word it may have kept. -/
structure Generator where
  state : BitVec 128
  increment : BitVec 128
  half : Option (BitVec 32)
  deriving DecidableEq, Repr

namespace Generator

def multiplier : BitVec 128 :=
  0x2360ed051fc65da44385df649fccf645

def advance (increment state : BitVec 128) : BitVec 128 :=
  state * multiplier + increment

def step (generator : Generator) : Generator :=
  { generator with state := advance generator.increment generator.state }

/-- The word a state shows. -/
def wordOf (state : BitVec 128) : BitVec 64 :=
  ((state >>> 64).setWidth 64 ^^^ state.setWidth 64).rotateRight (state >>> 122).toNat

/-- The next word of sixty-four bits.  A half word that is kept stays. -/
def nextWord (generator : Generator) : BitVec 64 × Generator :=
  let stepped := generator.step
  (wordOf stepped.state, stepped)

/-- The next word of thirty-two bits: the half that is kept, or else the low half of a new word,
whose high half is then kept. -/
def nextHalf (generator : Generator) : BitVec 32 × Generator :=
  match generator.half with
  | some half => (half, { generator with half := none })
  | none =>
      let drawn := generator.nextWord
      (drawn.1.setWidth 32,
        { drawn.2 with half := some ((drawn.1 >>> 32).setWidth 32) })

/-- Two words as one, the low one first. -/
def joinWords (low high : UInt32) : BitVec 128 :=
  high.toBitVec.setWidth 128 <<< 32 ||| low.toBitVec.setWidth 128

def start (state stream : BitVec 128) : Generator :=
  let increment := stream * 2 + 1
  ⟨advance increment (advance increment 0 + state), increment, none⟩

/-- The generator started by eight words.  The first four make up the number of its state and the
others that of its stream, the high part of either first. -/
def ofWords : List UInt32 → Generator
  | [a, b, c, d, e, f, g, h] =>
      start (joinWords a b <<< 64 ||| joinWords c d) (joinWords e f <<< 64 ||| joinWords g h)
  | _ => start 0 0

def ofSequence (sequence : SeedSequence) : Generator :=
  ofWords (sequence.output 8)

@[simp]
theorem increment_nextWord (generator : Generator) :
    generator.nextWord.2.increment = generator.increment := by
  obtain ⟨state, increment, half⟩ := generator
  rfl

@[simp]
theorem half_nextWord (generator : Generator) :
    generator.nextWord.2.half = generator.half := by
  obtain ⟨state, increment, half⟩ := generator
  rfl

@[simp]
theorem increment_nextHalf (generator : Generator) :
    generator.nextHalf.2.increment = generator.increment := by
  obtain ⟨state, increment, half⟩ := generator
  cases half with
  | none => rfl
  | some half => rfl

end Generator

end RandomSearch
