import Mathlib.Algebra.Group.Units.Basic
import Mathlib.Data.UInt
import RandomSearch.Random.Generator

/-!
# Mixing loses nothing

Words are multiplied by units only, and a word is never joined with more than its own upper half.
So every step that mixes a word into a pool, turns the pool into words, or starts a generator can be
undone as far as that word goes: the word that is mixed in last can be read off the state and the
increment of the generator.
-/

namespace RandomSearch

/-! ## Words -/

theorem shiftRight_shiftRight_sixteen (word : UInt32) : word >>> 16 >>> 16 = 0 := by
  have small : word.toNat < 4294967296 := word.toNat_lt
  apply UInt32.toNat_inj.mp
  simp [Nat.shiftRight_eq_div_pow]
  omega

/-- Joining a word with its upper half twice leads back to the word. -/
theorem xorShift_xorShift (word : UInt32) :
    (word ^^^ (word >>> 16)) ^^^ ((word ^^^ (word >>> 16)) >>> 16) = word := by
  rw [UInt32.shiftRight_xor, shiftRight_shiftRight_sixteen, UInt32.xor_zero, UInt32.xor_assoc,
    UInt32.xor_self, UInt32.xor_zero]

theorem xorShift_injective : Function.Injective fun word : UInt32 => word ^^^ (word >>> 16) := by
  intro left right same
  have joined : left ^^^ (left >>> 16) = right ^^^ (right >>> 16) := same
  rw [← xorShift_xorShift left, joined, xorShift_xorShift right]

theorem hashWord_injective {multiplier key : UInt32} (unit : IsUnit (key * multiplier)) :
    Function.Injective fun word => (hashWord multiplier key word).1 := by
  intro left right same
  have products : (left ^^^ key) * (key * multiplier) = (right ^^^ key) * (key * multiplier) :=
    xorShift_injective same
  have keyed : left ^^^ key = right ^^^ key := unit.mul_left_injective products
  exact (UInt32.xor_left_inj key).mp keyed

theorem isUnit_mixMultiplier : IsUnit (0x4973f715 : UInt32) :=
  IsUnit.of_mul_eq_one 0xcd6da03d (by decide)

theorem mixWord_injective (word : UInt32) : Function.Injective (mixWord word) := by
  intro left right same
  have differences :
      word * 0xca01f9dd - left * 0x4973f715 = word * 0xca01f9dd - right * 0x4973f715 :=
    xorShift_injective same
  have products : left * 0x4973f715 = right * 0x4973f715 := sub_right_injective differences
  exact isUnit_mixMultiplier.mul_left_injective products

/-! ## Pools -/

namespace EntropyPool

theorem isUnit_hashMultiplier : IsUnit (0x931e8875 : UInt32) :=
  IsUnit.of_mul_eq_one 0xb02507dd (by decide)

theorem hash_injective {key : UInt32} (unit : IsUnit key) :
    Function.Injective fun word => (hash key word).1 :=
  hashWord_injective (unit.mul isUnit_hashMultiplier)

/-- A pool in the course of mixing: its running key is a unit, and all of its places are filled. -/
structure IsSound (pool : EntropyPool) : Prop where
  unit : IsUnit pool.key
  full : pool.words.length = size

theorem isUnit_key_fill {key : UInt32} (unit : IsUnit key) (places : Nat) (entropy : List UInt32) :
    IsUnit (fill key places entropy).key := by
  induction places generalizing key entropy with
  | zero => exact unit
  | succ places inductionHypothesis =>
      exact inductionHypothesis (unit.mul isUnit_hashMultiplier) entropy.tail

theorem length_words_fill (key : UInt32) (places : Nat) (entropy : List UInt32) :
    (fill key places entropy).words.length = places := by
  induction places generalizing key entropy with
  | zero => rfl
  | succ places inductionHypothesis =>
      exact congrArg Nat.succ (inductionHypothesis _ entropy.tail)

theorem isUnit_key_stirFrom {key : UInt32} (unit : IsUnit key) (source : Nat) (word : UInt32)
    (position : Nat) (words : List UInt32) :
    IsUnit (stirFrom source word position key words).key := by
  induction words generalizing key position with
  | nil => exact unit
  | cons present rest inductionHypothesis =>
      by_cases here : position = source
      · rw [stirFrom, if_pos here]
        exact inductionHypothesis unit (position + 1)
      · rw [stirFrom, if_neg here]
        exact inductionHypothesis (unit.mul isUnit_hashMultiplier) (position + 1)

theorem length_words_stirFrom (source : Nat) (word : UInt32) (position : Nat) (key : UInt32)
    (words : List UInt32) :
    (stirFrom source word position key words).words.length = words.length := by
  induction words generalizing key position with
  | nil => rfl
  | cons present rest inductionHypothesis =>
      by_cases here : position = source
      · rw [stirFrom, if_pos here]
        exact congrArg Nat.succ (inductionHypothesis (position + 1) key)
      · rw [stirFrom, if_neg here]
        exact congrArg Nat.succ (inductionHypothesis (position + 1) _)

theorem IsSound.stirFrom {pool : EntropyPool} (sound : pool.IsSound) (source : Nat)
    (word : UInt32) : (stirFrom source word 0 pool.key pool.words).IsSound where
  unit := isUnit_key_stirFrom sound.unit source word 0 pool.words
  full := by rw [length_words_stirFrom, sound.full]

theorem IsSound.foldl {step : EntropyPool → β → EntropyPool}
    (keeps : ∀ pool item, pool.IsSound → (step pool item).IsSound) (items : List β)
    {pool : EntropyPool} (sound : pool.IsSound) : (items.foldl step pool).IsSound := by
  induction items generalizing pool with
  | nil => exact sound
  | cons item rest inductionHypothesis => exact inductionHypothesis (keeps pool item sound)

theorem isSound_ofEntropy (entropy : List UInt32) : (ofEntropy entropy).IsSound := by
  have firstKey : IsUnit (0x43b0d7e5 : UInt32) := IsUnit.of_mul_eq_one 0xf38ded (by decide)
  have filled : (fill 0x43b0d7e5 size entropy).IsSound :=
    ⟨isUnit_key_fill firstKey size entropy, length_words_fill _ size entropy⟩
  have spreadOut := filled.foldl (fun pool source sound =>
    sound.stirFrom source (pool.words.getD source 0)) (List.range size)
  exact spreadOut.foldl (fun pool word sound => sound.stirFrom size word) (entropy.drop size)

theorem fill_append (key : UInt32) {places : Nat} {entropy : List UInt32}
    (enough : places ≤ entropy.length) (others : List UInt32) :
    fill key places (entropy ++ others) = fill key places entropy := by
  induction places generalizing key entropy with
  | zero => rfl
  | succ places inductionHypothesis =>
      cases entropy with
      | nil => cases enough
      | cons word rest =>
          have restEnough : places ≤ rest.length := Nat.le_of_succ_le_succ enough
          simp only [fill, List.cons_append, List.headD_cons, List.tail_cons,
            inductionHypothesis _ restEnough]

/-- A word after those that fill the pool is mixed in last. -/
theorem ofEntropy_concat {entropy : List UInt32} (enough : size ≤ entropy.length) (word : UInt32) :
    ofEntropy (entropy ++ [word]) = (ofEntropy entropy).absorb word := by
  simp only [ofEntropy, fill_append _ enough, List.drop_append_of_le_length enough,
    List.foldl_append, List.foldl_cons, List.foldl_nil]

/-- The word mixed in last can be told from the first word of the pool. -/
theorem absorb_injective {pool : EntropyPool} (sound : pool.IsSound) :
    Function.Injective fun word => (pool.absorb word).words.getD 0 0 := by
  intro left right same
  cases present : pool.words with
  | nil =>
      have full := sound.full
      rw [present] at full
      cases full
  | cons first rest =>
      have mixed :
          mixWord first (hash pool.key left).1 = mixWord first (hash pool.key right).1 := by
        simpa [absorb, present, stirFrom, size] using same
      have hashed : (hash pool.key left).1 = (hash pool.key right).1 :=
        mixWord_injective first mixed
      exact hash_injective sound.unit hashed

/-- What a pool yields first can be told from its first word. -/
def firstOutput (word : UInt32) : UInt32 :=
  (hashWord 0x58f38ded 0x8b51f9dd word).1

theorem firstOutput_injective : Function.Injective firstOutput := by
  apply hashWord_injective
  exact IsUnit.of_mul_eq_one 0xad20a9a9 (by decide)

theorem exists_output_eq (pool : EntropyPool) :
    ∃ b c d e f g h,
      pool.output 8 = [firstOutput (pool.words.getD 0 0), b, c, d, e, f, g, h] :=
  ⟨_, _, _, _, _, _, _, rfl⟩

end EntropyPool

/-! ## Generators -/

namespace Generator

theorem isUnit_multiplier : IsUnit multiplier :=
  IsUnit.of_mul_eq_one 0x7dda22b9397986098abc8b0716eac8d (by decide)

/-- Generators that start alike have been given the same number for their state. -/
theorem start_injective {state stream otherState otherStream : BitVec 128}
    (sameState : (start state stream).state = (start otherState otherStream).state)
    (sameIncrement : (start state stream).increment = (start otherState otherStream).increment) :
    state = otherState := by
  have increments : stream * 2 + 1 = otherStream * 2 + 1 := sameIncrement
  have states : (advance (stream * 2 + 1) 0 + state) * multiplier + (stream * 2 + 1) =
      (advance (otherStream * 2 + 1) 0 + otherState) * multiplier + (otherStream * 2 + 1) :=
    sameState
  rw [increments] at states
  have products := add_left_injective _ states
  have sums := isUnit_multiplier.mul_left_injective products
  exact add_right_injective _ sums

/-- The first of the words that make up a number can be read off it. -/
theorem getLsbD_joinWords (first second third fourth : UInt32) {place : Nat} (inWord : place < 32) :
    (joinWords first second <<< 64 ||| joinWords third fourth).getLsbD (64 + place) =
      first.toBitVec.getLsbD place := by
  have inside : 64 + place < 128 := by omega
  have notThird : third.toBitVec.getLsbD (64 + place) = false :=
    BitVec.getLsbD_of_ge third.toBitVec (64 + place) (by omega)
  have notFourth : fourth.toBitVec.getLsbD (64 + place - 32) = false :=
    BitVec.getLsbD_of_ge fourth.toBitVec (64 + place - 32) (by omega)
  simp [joinWords, inside, inWord, notThird, notFourth]

theorem joinWords_injective {first second third fourth first' second' third' fourth' : UInt32}
    (same : joinWords first second <<< 64 ||| joinWords third fourth =
      joinWords first' second' <<< 64 ||| joinWords third' fourth') : first = first' := by
  apply UInt32.toBitVec_inj.mp
  apply BitVec.eq_of_getLsbD_eq
  intro place inWord
  rw [← getLsbD_joinWords first second third fourth inWord, same,
    getLsbD_joinWords first' second' third' fourth' inWord]

/-- Generators of pools start alike only if the pools have the same first word. -/
theorem ofWords_output_injective {pool other : EntropyPool}
    (sameState : (ofWords (pool.output 8)).state = (ofWords (other.output 8)).state)
    (sameIncrement : (ofWords (pool.output 8)).increment = (ofWords (other.output 8)).increment) :
    pool.words.getD 0 0 = other.words.getD 0 0 := by
  obtain ⟨b, c, d, e, f, g, h, output⟩ := pool.exists_output_eq
  obtain ⟨b', c', d', e', f', g', h', otherOutput⟩ := other.exists_output_eq
  rw [output, otherOutput] at sameState sameIncrement
  have numbers := start_injective sameState sameIncrement
  have words := joinWords_injective numbers
  exact EntropyPool.firstOutput_injective words

end Generator

/-! ## Children of a sequence -/

namespace SeedSequence

/-- The number of a child is the last word that is mixed in for it, and all that comes before is the
same for every child. -/
theorem exists_assembled_child (sequence : SeedSequence) :
    ∃ entropy : List UInt32, EntropyPool.size ≤ entropy.length ∧
      ∀ number < 0x100000000,
        (sequence.child number).assembled = entropy ++ [UInt32.ofNat number] := by
  refine ⟨sequence.words ++ List.replicate (EntropyPool.size - sequence.words.length) 0 ++
    sequence.spawnKey.flatMap wordsOf, ?_, ?_⟩
  · rw [List.length_append, List.length_append, List.length_replicate]
    omega
  · intro number small
    have key : (sequence.spawnKey ++ [number]).flatMap wordsOf =
        sequence.spawnKey.flatMap wordsOf ++ [UInt32.ofNat number] := by
      simp [wordsOf_of_lt small]
    have notEmpty :
        (sequence.spawnKey.flatMap wordsOf ++ [UInt32.ofNat number]).isEmpty = false := by
      simp
    simp only [assembled, child, key, notEmpty, Bool.false_eq_true, if_false, List.append_assoc]

/-- Generators of two children with numbers of one word start alike only if the children are the
same. -/
theorem child_injective {sequence : SeedSequence} {left right : Nat}
    (leftSmall : left < 0x100000000) (rightSmall : right < 0x100000000)
    (sameState : (Generator.ofSequence (sequence.child left)).state =
      (Generator.ofSequence (sequence.child right)).state)
    (sameIncrement : (Generator.ofSequence (sequence.child left)).increment =
      (Generator.ofSequence (sequence.child right)).increment) : left = right := by
  obtain ⟨entropy, enough, assembled⟩ := sequence.exists_assembled_child
  have pool : ∀ number < 0x100000000, Generator.ofSequence (sequence.child number) =
      Generator.ofWords
        (((EntropyPool.ofEntropy entropy).absorb (UInt32.ofNat number)).output 8) := by
    intro number small
    rw [← EntropyPool.ofEntropy_concat enough, ← assembled number small]
    rfl
  rw [pool left leftSmall, pool right rightSmall] at sameState sameIncrement
  have words := Generator.ofWords_output_injective sameState sameIncrement
  have numbers : UInt32.ofNat left = UInt32.ofNat right :=
    EntropyPool.absorb_injective (EntropyPool.isSound_ofEntropy entropy) words
  have values : (UInt32.ofNat left).toNat = (UInt32.ofNat right).toNat :=
    congrArg UInt32.toNat numbers
  rwa [UInt32.toNat_ofNat_of_lt' leftSmall, UInt32.toNat_ofNat_of_lt' rightSmall] at values

end SeedSequence

end RandomSearch
