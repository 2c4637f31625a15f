import Mathlib.Data.Fintype.Card
import Mathlib.Data.Fintype.Prod
import Mathlib.Logic.Function.Iterate
import RandomSearch.Random.Draw

/-!
# Rejected words

Words are tried until one is not rejected.  While words are rejected no generator comes back, so
that a loop that ends does so within the number of generators there are.  The limit on the number of
tries is larger than that, and is never the reason why a loop ends.
-/

namespace RandomSearch.Generator

variable {size value : Nat} {generator last left right : Generator}

/-! ## One word -/

/-- What becomes of the next word in a range of the given size. -/
def tryWord (size : Nat) (generator : Generator) : Option Nat :=
  placeWord (widthFor size) size (generator.nextOf (needsWide size)).1

/-- The generator after the next word for a range of the given size. -/
def afterWord (size : Nat) (generator : Generator) : Generator :=
  (generator.nextOf (needsWide size)).2

theorem increment_afterWord (size : Nat) (generator : Generator) :
    (generator.afterWord size).increment = generator.increment := by
  unfold afterWord nextOf
  cases needsWide size with
  | false => exact increment_nextHalf generator
  | true => exact increment_nextWord generator

theorem half_afterWord (wide : needsWide size = true) (generator : Generator) :
    (generator.afterWord size).half = generator.half := by
  unfold afterWord nextOf
  rw [wide]
  exact half_nextWord generator

/-- Past a word, the state of a generator tells which half is kept, if one is. -/
theorem afterWord_eq_of_state_eq (increments : left.increment = right.increment)
    (halves : needsWide size = true → left.half = right.half)
    (states : (left.afterWord size).state = (right.afterWord size).state)
    (kept : (left.afterWord size).half.isSome = (right.afterWord size).half.isSome) :
    left.afterWord size = right.afterWord size := by
  obtain ⟨leftState, leftIncrement, leftHalf⟩ := left
  obtain ⟨rightState, rightIncrement, rightHalf⟩ := right
  cases increments
  unfold afterWord nextOf at states kept ⊢
  cases wide : needsWide size with
  | true =>
      cases halves wide
      simp only [wide, if_true, nextWord, step] at states ⊢
      rw [states]
  | false =>
      simp only [wide, Bool.false_eq_true, if_false] at states kept ⊢
      cases leftHalf with
      | none =>
          cases rightHalf with
          | none =>
              simp only [nextHalf, nextWord, step] at states ⊢
              rw [states]
          | some half => cases kept
      | some half =>
          cases rightHalf with
          | none => cases kept
          | some other =>
              simp only [nextHalf] at states ⊢
              rw [states]

/-! ## Loops -/

/-- Words are tried one after the other until one is not rejected, which places a value. -/
inductive Accepts (size : Nat) : Generator → Nat → Generator → Prop
  | placed {generator : Generator} {value : Nat} (placed : generator.tryWord size = some value) :
      Accepts size generator value (generator.afterWord size)
  | rejected {generator last : Generator} {value : Nat}
      (rejected : generator.tryWord size = none)
      (later : Accepts size (generator.afterWord size) value last) :
      Accepts size generator value last

/-- Every word is rejected before the one at some position, which is not. -/
structure AcceptsAt (size : Nat) (generator : Generator) (position value : Nat) : Prop where
  rejected : ∀ earlier < position, ((afterWord size)^[earlier] generator).tryWord size = none
  placed : ((afterWord size)^[position] generator).tryWord size = some value

theorem Accepts.exists_acceptsAt (accepts : Accepts size generator value last) :
    ∃ position, AcceptsAt size generator position value ∧
      last = (afterWord size)^[position + 1] generator := by
  induction accepts with
  | placed placed => exact ⟨0, ⟨fun earlier before => absurd before (by omega), placed⟩, rfl⟩
  | rejected rejected _ inductionHypothesis =>
      obtain ⟨position, ⟨before, here⟩, same⟩ := inductionHypothesis
      refine ⟨position + 1, ⟨fun earlier isBefore => ?_, here⟩, same⟩
      cases earlier with
      | zero => exact rejected
      | succ earlier => exact before earlier (by omega)

theorem increment_iterate_afterWord (size : Nat) (generator : Generator) (count : Nat) :
    ((afterWord size)^[count] generator).increment = generator.increment := by
  induction count with
  | zero => rfl
  | succ count inductionHypothesis =>
      rw [Function.iterate_succ_apply', increment_afterWord, inductionHypothesis]

theorem half_iterate_afterWord (wide : needsWide size = true) (generator : Generator)
    (count : Nat) : ((afterWord size)^[count] generator).half = generator.half := by
  induction count with
  | zero => rfl
  | succ count inductionHypothesis =>
      rw [Function.iterate_succ_apply', half_afterWord wide, inductionHypothesis]

/-- No generator comes back before a word is accepted: the same words would follow it again, one
rejected and one accepted at the same place. -/
theorem AcceptsAt.iterate_ne {position earlier later : Nat}
    (accepts : AcceptsAt size generator position value) (before : earlier < later)
    (within : later ≤ position) :
    (afterWord size)^[earlier] generator ≠ (afterWord size)^[later] generator := by
  intro same
  have shifted : (afterWord size)^[position - later + earlier] generator =
      (afterWord size)^[position] generator := by
    rw [Function.iterate_add_apply, same, ← Function.iterate_add_apply,
      Nat.sub_add_cancel within]
  have rejected := accepts.rejected (position - later + earlier) (by omega)
  rw [shifted, accepts.placed] at rejected
  cases rejected

/-- A loop that ends does so within the limit. -/
theorem AcceptsAt.le_wordLimit {position : Nat}
    (accepts : AcceptsAt size generator position value) : position ≤ wordLimit := by
  let passed (index : Fin position) : Generator :=
    (afterWord size)^[(index : Nat) + 1] generator
  have stateTells : Function.Injective fun index : Fin position =>
      ((passed index).state.toFin, (passed index).half.isSome) := by
    intro first second same
    simp only [Prod.mk.injEq, BitVec.toFin_inj] at same
    have equal : passed first = passed second := by
      simp only [passed, Function.iterate_succ_apply'] at same ⊢
      refine afterWord_eq_of_state_eq ?_ (fun wide => ?_) same.1 same.2
      · rw [increment_iterate_afterWord, increment_iterate_afterWord]
      · rw [half_iterate_afterWord wide, half_iterate_afterWord wide]
    rcases Nat.lt_trichotomy (first : Nat) second with less | here | more
    · exact absurd equal (accepts.iterate_ne (by omega) (by omega))
    · exact Fin.ext here
    · exact absurd equal.symm (accepts.iterate_ne (by omega) (by omega))
  have counted := Fintype.card_le_of_injective _ stateTells
  rw [Fintype.card_fin, Fintype.card_prod, Fintype.card_fin, Fintype.card_bool] at counted
  refine counted.trans ?_
  decide

theorem placeWord_eq_some {bits word : Nat} (placed : placeWord bits size word = some value) :
    value = word * size / Nat.pow 2 bits := by
  unfold placeWord at placed
  split at placed
  · cases placed
  · exact (Option.some.inj placed).symm

theorem tryWords_of_acceptsAt {position tries : Nat}
    (accepts : AcceptsAt size generator position value) (enough : position ≤ tries) :
    tryWords size tries generator = (value, (afterWord size)^[position + 1] generator) := by
  induction position generalizing generator tries with
  | zero =>
      cases tries with
      | zero =>
          unfold tryWords
          rw [placeWord_eq_some accepts.placed]
          rfl
      | succ tries =>
          have placed : placeWord (widthFor size) size (generator.nextOf (needsWide size)).1 =
              some value := accepts.placed
          simp only [tryWords, placed]
          rfl
  | succ position inductionHypothesis =>
      obtain ⟨tries, rfl⟩ := Nat.exists_eq_add_of_le' (Nat.one_le_of_lt enough)
      have rejected : placeWord (widthFor size) size (generator.nextOf (needsWide size)).1 =
          none := accepts.rejected 0 (Nat.succ_pos position)
      have later : AcceptsAt size (generator.afterWord size) position value :=
        ⟨fun earlier before => accepts.rejected (earlier + 1) (Nat.succ_lt_succ before),
          accepts.placed⟩
      simp only [tryWords, rejected]
      exact inductionHypothesis later (by omega)

/-- A draw from several values gives what the loop gives, if it ends. -/
theorem drawBelow_of_accepts (several : 1 < size) (accepts : Accepts size generator value last) :
    generator.drawBelow size = (value, last) := by
  obtain ⟨position, acceptsAt, rfl⟩ := accepts.exists_acceptsAt
  unfold drawBelow
  rw [if_neg (Nat.not_le.mpr several)]
  exact tryWords_of_acceptsAt acceptsAt acceptsAt.le_wordLimit

end RandomSearch.Generator
