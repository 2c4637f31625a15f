import RandomSearch.Random.Generator

/-!
# Drawing integers from a range

A raw word is multiplied by the size of the range; the high part of the product is the value drawn.
The low part tells whether the word is one too many for all values to have the same number of words,
in which case it is rejected and the next word is tried.  Ranges of up to `2 ^ 32` values use words
of thirty-two bits, larger ones words of sixty-four, and a single value uses none.
-/

namespace RandomSearch

/-- What becomes of a raw word of the given width in a range of the given size: a value below the
size, or nothing if the word is rejected. -/
def placeWord (bits size word : Nat) : Option Nat :=
  if word * size % Nat.pow 2 bits < (Nat.pow 2 bits - size) % size then
    none
  else
    some (word * size / Nat.pow 2 bits)

theorem placeWord_lt {bits size word value : Nat} (inWidth : word < Nat.pow 2 bits)
    (placed : placeWord bits size word = some value) : value < size := by
  unfold placeWord at placed
  split at placed
  · cases placed
  · cases placed
    rename_i notRejected
    have sizePositive : 0 < size := by
      rcases Nat.eq_zero_or_pos size with zero | positive
      · subst zero
        simp at notRejected
      · exact positive
    have widthPositive : 0 < Nat.pow 2 bits := Nat.pow_pos Nat.two_pos
    rw [Nat.div_lt_iff_lt_mul widthPositive, Nat.mul_comm size]
    exact Nat.mul_lt_mul_of_pos_right inWidth sizePositive

namespace Generator

/-- The next word of at least the given width, thirty-two or sixty-four bits. -/
def nextOf (wide : Bool) (generator : Generator) : Nat × Generator :=
  if wide then
    let drawn := generator.nextWord
    (drawn.1.toNat, drawn.2)
  else
    let drawn := generator.nextHalf
    (drawn.1.toNat, drawn.2)

def needsWide (size : Nat) : Bool :=
  0x100000000 < size

def widthFor (size : Nat) : Nat :=
  if needsWide size then 64 else 32

/-- Try words until one is not rejected, at most one more than the given number; the last of so many
is taken in any case. -/
def tryWords (size : Nat) : Nat → Generator → Nat × Generator
  | 0, generator =>
      let drawn := generator.nextOf (needsWide size)
      (drawn.1 * size / Nat.pow 2 (widthFor size), drawn.2)
  | tries + 1, generator =>
      let drawn := generator.nextOf (needsWide size)
      match placeWord (widthFor size) size drawn.1 with
      | some value => (value, drawn.2)
      | none => tryWords size tries drawn.2

/-- More words than a generator has before its words repeat: each of its `2 ^ 128` states shows one
word, which has two halves. -/
def wordLimit : Nat :=
  Nat.pow 2 130

def drawBelow (size : Nat) (generator : Generator) : Nat × Generator :=
  if size ≤ 1 then (0, generator) else tryWords size wordLimit generator

def drawBetween (lower upper : Int) (generator : Generator) : Int × Generator :=
  let drawn := generator.drawBelow ((upper - lower).toNat + 1)
  (lower + (drawn.1 : Int), drawn.2)

def drawBox : List Int → List Int → Generator → List Int × Generator
  | lower :: lowers, upper :: uppers, generator =>
      let drawn := generator.drawBetween lower upper
      let others := drawBox lowers uppers drawn.2
      (drawn.1 :: others.1, others.2)
  | _, _, generator => ([], generator)

/-! ## Ranges -/

theorem nextOf_lt (size : Nat) (generator : Generator) :
    (generator.nextOf (needsWide size)).1 < Nat.pow 2 (widthFor size) := by
  unfold nextOf widthFor
  cases needsWide size with
  | false =>
      simp only [Bool.false_eq_true, if_false]
      exact (generator.nextHalf.1).isLt
  | true =>
      simp only [if_true]
      exact (generator.nextWord.1).isLt

theorem tryWords_lt {size : Nat} (sizePositive : 0 < size) (tries : Nat)
    (generator : Generator) : (tryWords size tries generator).1 < size := by
  induction tries generalizing generator with
  | zero =>
      simp only [tryWords]
      have widthPositive : 0 < Nat.pow 2 (widthFor size) := Nat.pow_pos Nat.two_pos
      rw [Nat.div_lt_iff_lt_mul widthPositive, Nat.mul_comm size]
      exact Nat.mul_lt_mul_of_pos_right (nextOf_lt size generator) sizePositive
  | succ tries inductionHypothesis =>
      simp only [tryWords]
      split
      · rename_i placed
        exact placeWord_lt (nextOf_lt size generator) placed
      · exact inductionHypothesis _

theorem drawBelow_lt {size : Nat} (sizePositive : 0 < size) (generator : Generator) :
    (generator.drawBelow size).1 < size := by
  unfold drawBelow
  split
  · exact sizePositive
  · exact tryWords_lt sizePositive _ generator

/-- A single value is drawn without a word. -/
theorem drawBetween_self (value : Int) (generator : Generator) :
    generator.drawBetween value value = (value, generator) := by
  simp [drawBetween, drawBelow]

theorem lower_le_drawBetween (lower upper : Int) (generator : Generator) :
    lower ≤ (generator.drawBetween lower upper).1 := by
  simp only [drawBetween]
  exact Int.le_add_of_nonneg_right (Int.natCast_nonneg _)

theorem drawBetween_le_upper {lower upper : Int} (ordered : lower ≤ upper)
    (generator : Generator) : (generator.drawBetween lower upper).1 ≤ upper := by
  have sizePositive : 0 < (upper - lower).toNat + 1 := Nat.succ_pos _
  have bound := drawBelow_lt sizePositive generator
  simp only [drawBetween]
  omega

theorem length_drawBox (lowers uppers : List Int) (generator : Generator) :
    (generator.drawBox lowers uppers).1.length = min lowers.length uppers.length := by
  induction lowers generalizing uppers generator with
  | nil => simp [drawBox]
  | cons lower lowers inductionHypothesis =>
      cases uppers with
      | nil => simp [drawBox]
      | cons upper uppers =>
          simp only [drawBox, List.length_cons, inductionHypothesis]
          omega

end Generator

end RandomSearch
