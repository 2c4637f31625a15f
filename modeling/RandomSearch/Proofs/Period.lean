import Mathlib.Algebra.Group.Nat.Even
import Mathlib.Data.BitVec
import Mathlib.Logic.Relation
import Mathlib.Tactic.Ring
import RandomSearch.Proofs.Placing
import RandomSearch.Proofs.Rejection
import RandomSearch.Random.Seed

/-!
# Every word comes up

The multiplier of the generator is one more than a multiple of four, and the increment of a
generator that was made from a seed is odd.  So `2 ^ k` steps change the state by `2 ^ k` and a
multiple of `2 ^ (k + 1)`, and from any state every other one is reached.  Every word is shown by
some state, and comes up some time, whole or by halves, whether a half word is kept or not.  In
particular a word comes up that is not rejected.
-/

namespace RandomSearch.Generator

variable {increment : BitVec 128} {generator last : Generator} {size value : Nat}

/-! ## States -/

/-- The increment of a stream. -/
def IsOdd (increment : BitVec 128) : Prop :=
  ∃ stream, increment = stream * 2 + 1

theorem multiplier_eq : multiplier = 1 + 4 * 0x08d83b4147f1976910e177d927f33d91 := by
  decide

theorem exists_iterate_two_pow (odd : IsOdd increment) (bits : Nat) :
    ∃ factor shift : BitVec 128, ∀ state,
      (advance increment)^[2 ^ bits] state =
        state * (1 + 2 ^ (bits + 2) * factor) + 2 ^ bits * (1 + 2 * shift) := by
  induction bits with
  | zero =>
      obtain ⟨stream, odd⟩ := odd
      refine ⟨0x08d83b4147f1976910e177d927f33d91, stream, fun state => ?_⟩
      change state * multiplier + increment = _
      rw [odd, multiplier_eq]
      ring
  | succ bits inductionHypothesis =>
      obtain ⟨factor, shift, steps⟩ := inductionHypothesis
      refine ⟨factor + 2 ^ (bits + 1) * factor * factor,
        shift + 2 ^ bits * factor * (1 + 2 * shift), fun state => ?_⟩
      have doubled : 2 ^ (bits + 1) = 2 ^ bits + 2 ^ bits := by
        ring
      rw [doubled, Function.iterate_add_apply, steps, steps]
      ring

theorem exists_two_mul (number : BitVec 128) :
    ∃ half, number = 2 * half ∨ number = 2 * half + 1 := by
  have same : BitVec.ofNat 128 number.toNat = number := by
    rw [BitVec.ofNat_toNat, BitVec.setWidth_eq]
  rcases Nat.even_or_odd' number.toNat with ⟨half, even | odd⟩
  · refine ⟨BitVec.ofNat 128 half, Or.inl ?_⟩
    rw [← same, even, BitVec.ofNat_mul]
    rfl
  · refine ⟨BitVec.ofNat 128 half, Or.inr ?_⟩
    rw [← same, odd, BitVec.ofNat_add, BitVec.ofNat_mul]
    rfl

/-- Some steps lead to a state with the lowest bits of any other. -/
theorem exists_iterate_eq_add (odd : IsOdd increment) (state target : BitVec 128) (bits : Nat) :
    ∃ count rest, (advance increment)^[count] state = target + 2 ^ bits * rest := by
  induction bits with
  | zero =>
      refine ⟨0, state - target, ?_⟩
      rw [Function.iterate_zero_apply]
      ring
  | succ bits inductionHypothesis =>
      obtain ⟨count, rest, reached⟩ := inductionHypothesis
      rcases exists_two_mul rest with ⟨half, even | odd'⟩
      · refine ⟨count, half, ?_⟩
        rw [reached, even]
        ring
      · -- The next bit is wrong, and as many steps as its place stands for change it.
        obtain ⟨factor, shift, steps⟩ := exists_iterate_two_pow odd bits
        refine ⟨2 ^ bits + count, half + 1 + shift + 2 * factor * (target + 2 ^ bits * rest), ?_⟩
        rw [Function.iterate_add_apply, reached, steps, odd']
        ring

theorem exists_iterate_advance_eq (odd : IsOdd increment) (state target : BitVec 128) :
    ∃ count, (advance increment)^[count] state = target := by
  have nothingAbove : (2 : BitVec 128) ^ 128 = 0 := by
    decide +kernel
  obtain ⟨count, rest, reached⟩ := exists_iterate_eq_add odd state target 128
  refine ⟨count, ?_⟩
  rw [reached, nothingAbove, zero_mul, add_zero]

/-! ## Words of sixty-four bits -/

theorem wordOf_setWidth (word : BitVec 64) : wordOf (word.setWidth 128) = word := by
  have high : (word.setWidth 128 >>> 64).setWidth 64 = 0#64 := by
    apply BitVec.eq_of_getLsbD_eq
    intro place inWord
    simp
  have turns : (word.setWidth 128 >>> 122).toNat = 0 := by
    have small := word.isLt
    simp [Nat.shiftRight_eq_div_pow]
    omega
  unfold wordOf
  rw [turns, high, BitVec.setWidth_setWidth_of_le word (by decide), BitVec.setWidth_eq,
    BitVec.zero_xor]
  simp [BitVec.rotateRight, BitVec.rotateRightAux]

theorem iterate_step (generator : Generator) (count : Nat) :
    step^[count] generator =
      { generator with state := (advance generator.increment)^[count] generator.state } := by
  induction count with
  | zero => rfl
  | succ count inductionHypothesis =>
      rw [Function.iterate_succ_apply', Function.iterate_succ_apply', inductionHypothesis]
      rfl

theorem half_iterate_step (generator : Generator) (count : Nat) :
    (step^[count] generator).half = generator.half := by
  rw [iterate_step]

theorem exists_nextWord_eq (odd : IsOdd generator.increment) (word : BitVec 64) :
    ∃ count, (step^[count] generator).nextWord.1 = word := by
  obtain ⟨count, reached⟩ := exists_iterate_advance_eq odd
    (advance generator.increment generator.state) (word.setWidth 128)
  refine ⟨count, ?_⟩
  have state : (step (step^[count] generator)).state = word.setWidth 128 := by
    rw [← Function.iterate_succ_apply' step, iterate_step, Function.iterate_succ_apply]
    exact reached
  change wordOf (step (step^[count] generator)).state = word
  rw [state, wordOf_setWidth]

/-! ## Words of thirty-two bits -/

theorem afterWord_of_wide (wide : needsWide size = true) : afterWord size = step := by
  funext generator
  simp only [afterWord, nextOf, wide, if_true, nextWord]

theorem afterWord_of_narrow (narrow : needsWide size = false) (generator : Generator) :
    afterWord size generator = generator.nextHalf.2 := by
  simp only [afterWord, nextOf, narrow, Bool.false_eq_true, if_false]

theorem nextOf_of_wide (wide : needsWide size = true) (generator : Generator) :
    (generator.nextOf (needsWide size)).1 = generator.nextWord.1.toNat := by
  simp only [nextOf, wide, if_true]

theorem nextOf_of_narrow (narrow : needsWide size = false) (generator : Generator) :
    (generator.nextOf (needsWide size)).1 = generator.nextHalf.1.toNat := by
  simp only [nextOf, narrow, Bool.false_eq_true, if_false]

theorem nextHalf_of_noHalf (noHalf : generator.half = none) :
    generator.nextHalf.1 = generator.nextWord.1.setWidth 32 := by
  unfold nextHalf
  rw [noHalf]

theorem half_nextHalf_of_kept (kept : generator.half ≠ none) :
    generator.nextHalf.2.half = none := by
  unfold nextHalf
  split
  · rfl
  · contradiction

theorem nextHalf_nextHalf (noHalf : generator.half = none) :
    generator.nextHalf.2.nextHalf.2 = step generator := by
  obtain ⟨state, increment, half⟩ := generator
  cases noHalf
  simp only [nextHalf, nextWord, step]

theorem iterate_afterWord_two_mul (narrow : needsWide size = false)
    (noHalf : generator.half = none) (count : Nat) :
    (afterWord size)^[2 * count] generator = step^[count] generator := by
  induction count with
  | zero => rw [Nat.mul_zero, Function.iterate_zero_apply, Function.iterate_zero_apply]
  | succ count inductionHypothesis =>
      have twoMore : 2 * (count + 1) = 2 * count + 1 + 1 := by
        omega
      have stillNone : (step^[count] generator).half = none := by
        rw [half_iterate_step, noHalf]
      rw [twoMore, Function.iterate_succ_apply', Function.iterate_succ_apply',
        inductionHypothesis, Function.iterate_succ_apply', afterWord_of_narrow narrow,
        afterWord_of_narrow narrow, nextHalf_nextHalf stillNone]

theorem exists_nextHalf_eq (narrow : needsWide size = false) (odd : IsOdd generator.increment)
    (noHalf : generator.half = none) (word : BitVec 32) :
    ∃ count, ((afterWord size)^[count] generator).nextHalf.1 = word := by
  obtain ⟨count, shows⟩ := exists_nextWord_eq odd (word.setWidth 64)
  have stillNone : (step^[count] generator).half = none := by
    rw [half_iterate_step, noHalf]
  refine ⟨2 * count, ?_⟩
  rw [iterate_afterWord_two_mul narrow noHalf, nextHalf_of_noHalf stillNone, shows,
    BitVec.setWidth_setWidth_of_le word (by decide), BitVec.setWidth_eq]

/-- Every word comes up some time. -/
theorem exists_nextOf_eq (odd : IsOdd generator.increment) {word : Nat}
    (inWidth : word < Nat.pow 2 (widthFor size)) :
    ∃ count, (((afterWord size)^[count] generator).nextOf (needsWide size)).1 = word := by
  unfold widthFor at inWidth
  cases wide : needsWide size with
  | true =>
      rw [wide, if_pos rfl] at inWidth
      obtain ⟨count, shows⟩ := exists_nextWord_eq odd (BitVec.ofNat 64 word)
      have number : (BitVec.ofNat 64 word).toNat = word := Nat.mod_eq_of_lt inWidth
      refine ⟨count, ?_⟩
      rw [← wide, afterWord_of_wide wide, nextOf_of_wide wide, shows, number]
  | false =>
      rw [wide, if_neg Bool.false_ne_true] at inWidth
      have number : (BitVec.ofNat 32 word).toNat = word := Nat.mod_eq_of_lt inWidth
      by_cases noHalf : generator.half = none
      · obtain ⟨count, shows⟩ := exists_nextHalf_eq wide odd noHalf (BitVec.ofNat 32 word)
        refine ⟨count, ?_⟩
        rw [← wide, nextOf_of_narrow wide, shows, number]
      · -- The half word that is kept comes first.
        have emptied : (afterWord size generator).half = none := by
          rw [afterWord_of_narrow wide, half_nextHalf_of_kept noHalf]
        have stillOdd : IsOdd (afterWord size generator).increment := by
          rw [increment_afterWord]
          exact odd
        obtain ⟨count, shows⟩ := exists_nextHalf_eq wide stillOdd emptied (BitVec.ofNat 32 word)
        refine ⟨count + 1, ?_⟩
        rw [← wide, nextOf_of_narrow wide, Function.iterate_succ_apply, shows, number]

/-! ## Loops -/

/-- Every value is placed some time. -/
theorem exists_tryWord_eq_some (odd : IsOdd generator.increment)
    (inWidth : size ≤ Nat.pow 2 (widthFor size)) (inRange : value < size) :
    ∃ count, ((afterWord size)^[count] generator).tryWord size = some value := by
  obtain ⟨word, below, placed⟩ := exists_placeWord_eq_some inWidth inRange
  obtain ⟨count, shows⟩ := exists_nextOf_eq odd below
  refine ⟨count, ?_⟩
  unfold tryWord
  rw [shows, placed]

theorem exists_accepts_of_tryWord {count : Nat}
    (placed : ((afterWord size)^[count] generator).tryWord size = some value) :
    ∃ value last, Accepts size generator value last := by
  induction count generalizing generator with
  | zero => exact ⟨value, _, .placed placed⟩
  | succ count inductionHypothesis =>
      cases here : generator.tryWord size with
      | some first => exact ⟨first, _, .placed here⟩
      | none =>
          obtain ⟨first, last, later⟩ := inductionHypothesis placed
          exact ⟨first, last, .rejected here later⟩

/-- The loop of a draw ends: a word comes up that is not rejected. -/
theorem exists_accepts (odd : IsOdd generator.increment)
    (inWidth : size ≤ Nat.pow 2 (widthFor size)) (positive : 0 < size) :
    ∃ value last, Accepts size generator value last := by
  obtain ⟨count, placed⟩ := exists_tryWord_eq_some odd inWidth positive
  exact exists_accepts_of_tryWord placed

/-! ## Generators that are reached -/

/-- A generator is what has become of another one after some words and half words. -/
def Reaches : Generator → Generator → Prop :=
  Relation.ReflTransGen fun before after =>
    after = before.nextWord.2 ∨ after = before.nextHalf.2

theorem Reaches.increment_eq (reached : generator.Reaches last) :
    last.increment = generator.increment := by
  induction reached with
  | refl => rfl
  | tail _ moved inductionHypothesis =>
      rcases moved with rfl | rfl
      · rw [increment_nextWord, inductionHypothesis]
      · rw [increment_nextHalf, inductionHypothesis]

theorem Reaches.isOdd (reached : generator.Reaches last) (odd : IsOdd generator.increment) :
    IsOdd last.increment := by
  rw [reached.increment_eq]
  exact odd

theorem reaches_afterWord (size : Nat) (generator : Generator) :
    generator.Reaches (generator.afterWord size) := by
  apply Relation.ReflTransGen.single
  cases wide : needsWide size with
  | true => exact Or.inl (congrFun (afterWord_of_wide wide) generator)
  | false => exact Or.inr (afterWord_of_narrow wide generator)

theorem reaches_iterate_afterWord (size : Nat) (generator : Generator) (count : Nat) :
    generator.Reaches ((afterWord size)^[count] generator) := by
  induction count with
  | zero => exact .refl
  | succ count inductionHypothesis =>
      rw [Function.iterate_succ_apply']
      exact inductionHypothesis.trans (reaches_afterWord size _)

theorem isOdd_start (state stream : BitVec 128) : IsOdd (start state stream).increment :=
  ⟨stream, rfl⟩

theorem isOdd_ofSequence (sequence : SeedSequence) : IsOdd (ofSequence sequence).increment := by
  unfold ofSequence ofWords
  split
  · exact isOdd_start _ _
  · exact isOdd_start _ _

theorem isOdd_of_seed {seed : Seed} (made : seed.generator = .ok generator) :
    IsOdd generator.increment := by
  unfold Seed.generator at made
  cases sequence : seed.toSequence with
  | error fault =>
      rw [sequence] at made
      cases made
  | ok sequence' =>
      rw [sequence] at made
      cases made
      exact isOdd_ofSequence sequence'

end RandomSearch.Generator
