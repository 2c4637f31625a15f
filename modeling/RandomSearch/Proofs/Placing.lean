import Mathlib.Order.Interval.Finset.Nat
import RandomSearch.Random.Draw

/-!
# The words that place a value

The products of the words with the size of a range are cut into as many sections as the range has
values, and the words of a section place its value.  A section begins with rejected words, as many
as make what is left of it a multiple of the size.  So the words that place a value follow one
another, and they are equally many for all values.
-/

namespace RandomSearch

variable {bits size word value : Nat}

/-- The words of the given width that place a value in a range of the given size. -/
def wordsPlacing (bits size value : Nat) : Finset Nat :=
  (Finset.range (Nat.pow 2 bits)).filter fun word => placeWord bits size word = some value

/-- The words there are for each value. -/
def wordShare (bits size : Nat) : Nat :=
  Nat.pow 2 bits / size

/-- The first of the words that place a value. -/
def firstPlacing (bits size value : Nat) : Nat :=
  (value * Nat.pow 2 bits + Nat.pow 2 bits % size + (size - 1)) / size

theorem wordShare_pos (positive : 0 < size) (inWidth : size ≤ Nat.pow 2 bits) :
    0 < wordShare bits size :=
  Nat.div_pos inWidth positive

/-- A word places a value exactly if its product with the size lies in the section of the value,
past the rejected ones at the beginning. -/
theorem placeWord_eq_some_iff (inWidth : size ≤ Nat.pow 2 bits) :
    placeWord bits size word = some value ↔
      value * Nat.pow 2 bits + Nat.pow 2 bits % size ≤ word * size ∧
        word * size < (value + 1) * Nat.pow 2 bits := by
  have widthPositive : 0 < Nat.pow 2 bits := Nat.pow_pos Nat.two_pos
  have threshold : (Nat.pow 2 bits - size) % size = Nat.pow 2 bits % size :=
    (Nat.mod_eq_sub_mod inWidth).symm
  have parts := Nat.div_add_mod' (word * size) (Nat.pow 2 bits)
  have low := Nat.mod_lt (word * size) widthPositive
  have sectionEnd : (value + 1) * Nat.pow 2 bits = value * Nat.pow 2 bits + Nat.pow 2 bits :=
    Nat.succ_mul value _
  unfold placeWord
  rw [threshold]
  constructor
  · intro placed
    split at placed
    · cases placed
    · rename_i accepted
      have same : word * size / Nat.pow 2 bits = value := Option.some.inj placed
      rw [same] at parts
      omega
  · intro inSection
    have same : word * size / Nat.pow 2 bits = value := by
      apply Nat.div_eq_of_lt_le
      · exact le_trans (Nat.le_add_right _ _) inSection.1
      · exact inSection.2
    rw [same] at parts
    have accepted : ¬ word * size % Nat.pow 2 bits < Nat.pow 2 bits % size := by
      omega
    rw [if_neg accepted, same]

theorem firstPlacing_le_iff (positive : 0 < size) :
    firstPlacing bits size value ≤ word ↔
      value * Nat.pow 2 bits + Nat.pow 2 bits % size ≤ word * size := by
  have next : (word + 1) * size = word * size + size := Nat.succ_mul word size
  unfold firstPlacing
  rw [← Nat.lt_succ_iff, Nat.div_lt_iff_lt_mul positive, Nat.succ_eq_add_one, next]
  omega

theorem lt_firstPlacing_add_wordShare_iff (positive : 0 < size) :
    word < firstPlacing bits size value + wordShare bits size ↔
      word * size < (value + 1) * Nat.pow 2 bits := by
  have whole : wordShare bits size * size + Nat.pow 2 bits % size = Nat.pow 2 bits :=
    Nat.div_add_mod' (Nat.pow 2 bits) size
  have sectionEnd : (value + 1) * Nat.pow 2 bits = value * Nat.pow 2 bits + Nat.pow 2 bits :=
    Nat.succ_mul value _
  by_cases early : word < wordShare bits size
  · have below : word * size < wordShare bits size * size :=
      Nat.mul_lt_mul_of_pos_right early positive
    apply iff_of_true
    · omega
    · omega
  · -- Going back by one share of words goes back by what of a section is not rejected.
    obtain ⟨back, rfl⟩ := Nat.exists_eq_add_of_le (Nat.not_lt.mp early)
    have product : (wordShare bits size + back) * size =
        wordShare bits size * size + back * size :=
      Nat.add_mul _ _ _
    have begins : firstPlacing bits size value ≤ back ↔ _ := firstPlacing_le_iff positive
    omega

/-- The words that place a value follow one another. -/
theorem wordsPlacing_eq_Ico (positive : 0 < size) (inWidth : size ≤ Nat.pow 2 bits)
    (inRange : value < size) :
    wordsPlacing bits size value =
      Finset.Ico (firstPlacing bits size value)
        (firstPlacing bits size value + wordShare bits size) := by
  ext word
  unfold wordsPlacing
  rw [Finset.mem_filter, Finset.mem_range, placeWord_eq_some_iff inWidth, Finset.mem_Ico,
    firstPlacing_le_iff positive, lt_firstPlacing_add_wordShare_iff positive]
  constructor
  · intro member
    exact member.2
  · intro inSection
    refine ⟨?_, inSection⟩
    have below : word * size < Nat.pow 2 bits * size := by
      calc
        word * size < (value + 1) * Nat.pow 2 bits := inSection.2
        _ ≤ size * Nat.pow 2 bits := Nat.mul_le_mul_right _ inRange
        _ = Nat.pow 2 bits * size := Nat.mul_comm _ _
    exact Nat.lt_of_mul_lt_mul_right below

/-- Every value has the same number of words. -/
theorem card_wordsPlacing (positive : 0 < size) (inWidth : size ≤ Nat.pow 2 bits)
    (inRange : value < size) : (wordsPlacing bits size value).card = wordShare bits size := by
  rw [wordsPlacing_eq_Ico positive inWidth inRange, Nat.card_Ico, Nat.add_sub_cancel_left]

theorem exists_placeWord_eq_some (inWidth : size ≤ Nat.pow 2 bits) (inRange : value < size) :
    ∃ word < Nat.pow 2 bits, placeWord bits size word = some value := by
  have positive : 0 < size := Nat.zero_lt_of_lt inRange
  have some : 0 < (wordsPlacing bits size value).card := by
    rw [card_wordsPlacing positive inWidth inRange]
    exact wordShare_pos positive inWidth
  obtain ⟨word, member⟩ := Finset.card_pos.mp some
  obtain ⟨below, placed⟩ := Finset.mem_filter.mp member
  exact ⟨word, Finset.mem_range.mp below, placed⟩

end RandomSearch
