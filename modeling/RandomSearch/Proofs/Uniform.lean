import RandomSearch.Linear.ProductMix
import RandomSearch.Proofs.LinearFailures
import RandomSearch.Proofs.Period

/-!
# Draws that end, and are uniform

The draw of a variable takes raw words until one is not rejected, which happens after finitely many
of them, whatever draws have been made before from the stream of a seed.  The value drawn is the one
that this word places, and every value between the limits is placed by the same number of words.
-/

namespace RandomSearch

variable {σ : Type}

namespace Generator

variable {lower upper value : Int} {generator last : Generator} {lowers uppers point : List Int}

/-! ## Raw words of a range -/

/-- The number of values between two limits, both included. -/
def rangeSize (lower upper : Int) : Nat :=
  (upper - lower).toNat + 1

/-- The number of raw words that the draw of a value chooses from. -/
def rawWords (lower upper : Int) : Nat :=
  Nat.pow 2 (widthFor (rangeSize lower upper))

/-- What becomes of a raw word: the value that it places, or nothing if it is rejected. -/
def placeBetween (lower upper : Int) (word : Nat) : Option Int :=
  (placeWord (widthFor (rangeSize lower upper)) (rangeSize lower upper) word).map
    fun offset : Nat => lower + offset

/-- The raw words that place a value. -/
def wordsBetween (lower upper value : Int) : Finset Nat :=
  (Finset.range (rawWords lower upper)).filter fun word =>
    placeBetween lower upper word = some value

theorem rangeSize_pos (lower upper : Int) : 0 < rangeSize lower upper :=
  Nat.succ_pos _

theorem widthFor_eq (size : Nat) : widthFor size = if 0x100000000 < size then 64 else 32 := by
  unfold widthFor needsWide
  by_cases large : 0x100000000 < size
  · rw [if_pos large, decide_eq_true large, if_pos rfl]
  · rw [if_neg large, decide_eq_false large, if_neg Bool.false_ne_true]

theorem rangeSize_le_rawWords (lowerFits : LinearProblem.fitsWord lower = true)
    (upperFits : LinearProblem.fitsWord upper = true) :
    rangeSize lower upper ≤ rawWords lower upper := by
  have lowerBound : -0x8000000000000000 ≤ lower := by
    simp only [LinearProblem.fitsWord, Bool.and_eq_true, decide_eq_true_eq] at lowerFits
    exact lowerFits.1
  have upperBound : upper < 0x8000000000000000 := by
    simp only [LinearProblem.fitsWord, Bool.and_eq_true, decide_eq_true_eq] at upperFits
    exact upperFits.2
  have size : rangeSize lower upper ≤ 0x10000000000000000 := by
    unfold rangeSize
    omega
  unfold rawWords
  rw [widthFor_eq]
  by_cases large : 0x100000000 < rangeSize lower upper
  · rw [if_pos large]
    exact size
  · rw [if_neg large]
    exact Nat.not_lt.mp large

theorem placeBetween_eq_some_iff {word : Nat} :
    placeBetween lower upper word = some value ↔
      ∃ offset : Nat, placeWord (widthFor (rangeSize lower upper)) (rangeSize lower upper) word =
        some offset ∧ lower + offset = value := by
  unfold placeBetween
  exact Option.map_eq_some_iff

/-- What a raw word places lies between the limits. -/
theorem between_of_placeBetween (ordered : lower ≤ upper) {word : Nat}
    (inWidth : word < rawWords lower upper) (placed : placeBetween lower upper word = some value) :
    lower ≤ value ∧ value ≤ upper := by
  obtain ⟨offset, offsetPlaced, rfl⟩ := placeBetween_eq_some_iff.mp placed
  have below := placeWord_lt inWidth offsetPlaced
  unfold rangeSize at below
  constructor
  · omega
  · omega

theorem wordsBetween_eq (above : lower ≤ value) :
    wordsBetween lower upper value =
      wordsPlacing (widthFor (rangeSize lower upper)) (rangeSize lower upper)
        (value - lower).toNat := by
  unfold wordsBetween wordsPlacing
  apply Finset.filter_congr
  intro word _
  rw [placeBetween_eq_some_iff]
  constructor
  · rintro ⟨offset, placed, same⟩
    have offset_eq : (value - lower).toNat = offset := by
      omega
    rw [offset_eq, placed]
  · intro placed
    refine ⟨(value - lower).toNat, placed, ?_⟩
    omega

/-- Between the limits every value has the same number of raw words. -/
theorem card_wordsBetween (inWidth : rangeSize lower upper ≤ rawWords lower upper)
    (above : lower ≤ value) (below : value ≤ upper) :
    (wordsBetween lower upper value).card = rawWords lower upper / rangeSize lower upper := by
  have inRange : (value - lower).toNat < rangeSize lower upper := by
    unfold rangeSize
    omega
  rw [wordsBetween_eq above, card_wordsPlacing (rangeSize_pos lower upper) inWidth inRange]
  rfl

/-- The raw words that are not rejected are shared out evenly among the values between the limits,
and there is one for each if there are as many values as raw words. -/
structure SharesEvenly (lower upper : Int) : Prop where
  between : ∀ word < rawWords lower upper, ∀ value,
    placeBetween lower upper word = some value → lower ≤ value ∧ value ≤ upper
  share : ∀ value, lower ≤ value → value ≤ upper →
    (wordsBetween lower upper value).card = rawWords lower upper / rangeSize lower upper
  positive : 0 < rawWords lower upper / rangeSize lower upper
  whole : rangeSize lower upper = Nat.pow 2 32 ∨ rangeSize lower upper = Nat.pow 2 64 →
    rawWords lower upper / rangeSize lower upper = 1

theorem sharesEvenly (ordered : lower ≤ upper)
    (inWidth : rangeSize lower upper ≤ rawWords lower upper) : SharesEvenly lower upper where
  between word below value placed := between_of_placeBetween ordered below placed
  share value above below := card_wordsBetween inWidth above below
  positive := wordShare_pos (rangeSize_pos lower upper) inWidth
  whole whole := by
    unfold rawWords
    rw [widthFor_eq]
    rcases whole with half | full
    · rw [half]
      decide
    · rw [full]
      decide

theorem SharesEvenly.exists_placeBetween (shares : SharesEvenly lower upper)
    (above : lower ≤ value) (below : value ≤ upper) :
    ∃ word < rawWords lower upper, placeBetween lower upper word = some value := by
  have some : 0 < (wordsBetween lower upper value).card := by
    rw [shares.share value above below]
    exact shares.positive
  obtain ⟨word, member⟩ := Finset.card_pos.mp some
  obtain ⟨inWords, placed⟩ := Finset.mem_filter.mp member
  exact ⟨word, Finset.mem_range.mp inWords, placed⟩

/-- Raw words, one for each variable with several values, that place a point. -/
inductive PlacesPoint : List Int → List Int → List Nat → List Int → Prop
  | nil : PlacesPoint [] [] [] []
  | single {value : Int} {lowers uppers point : List Int} {words : List Nat}
      (others : PlacesPoint lowers uppers words point) :
      PlacesPoint (value :: lowers) (value :: uppers) words (value :: point)
  | several {lower upper value : Int} {lowers uppers point : List Int} {word : Nat}
      {words : List Nat} (several : lower < upper) (inWidth : word < rawWords lower upper)
      (placed : placeBetween lower upper word = some value)
      (others : PlacesPoint lowers uppers words point) :
      PlacesPoint (lower :: lowers) (upper :: uppers) (word :: words) (value :: point)

theorem exists_placesPoint (lowersFit : ∀ limit ∈ lowers, LinearProblem.fitsWord limit = true)
    (uppersFit : ∀ limit ∈ uppers, LinearProblem.fitsWord limit = true)
    (aboveLowers : List.Forall₂ (· ≤ ·) lowers point)
    (belowUppers : List.Forall₂ (· ≤ ·) point uppers) :
    ∃ words, PlacesPoint lowers uppers words point := by
  induction aboveLowers generalizing uppers with
  | nil =>
      cases belowUppers
      exact ⟨[], .nil⟩
  | @cons lower value lowers point above _ inductionHypothesis =>
      cases belowUppers with
      | @cons _ upper _ uppers below others =>
          obtain ⟨lowerFits, otherLowers⟩ := List.forall_mem_cons.mp lowersFit
          obtain ⟨upperFits, otherUppers⟩ := List.forall_mem_cons.mp uppersFit
          obtain ⟨words, placed⟩ := inductionHypothesis otherLowers otherUppers others
          have ordered : lower ≤ upper := above.trans below
          rcases Int.lt_or_eq_of_le ordered with several | rfl
          · have shares := sharesEvenly ordered (rangeSize_le_rawWords lowerFits upperFits)
            obtain ⟨word, inWidth, here⟩ := shares.exists_placeBetween above below
            exact ⟨word :: words, .several several inWidth here placed⟩
          · have only : value = lower := le_antisymm below above
            rw [only]
            exact ⟨words, .single placed⟩

/-! ## Draws -/

/-- The raw word at some place after a generator. -/
def rawWord (lower upper : Int) (generator : Generator) (place : Nat) : Nat :=
  (((afterWord (rangeSize lower upper))^[place] generator).nextOf
    (needsWide (rangeSize lower upper))).1

/-- After some raw words that are rejected comes one that places a value. -/
structure DrawnAfter (lower upper : Int) (generator : Generator) (rejections : Nat) (value : Int)
    (last : Generator) : Prop where
  rejected : ∀ earlier < rejections,
    placeBetween lower upper (rawWord lower upper generator earlier) = none
  placed : placeBetween lower upper (rawWord lower upper generator rejections) = some value
  last_eq : last = (afterWord (rangeSize lower upper))^[rejections + 1] generator

theorem placeBetween_rawWord (lower upper : Int) (generator : Generator) (place : Nat) :
    placeBetween lower upper (rawWord lower upper generator place) =
      (((afterWord (rangeSize lower upper))^[place] generator).tryWord
        (rangeSize lower upper)).map fun offset : Nat => lower + offset :=
  rfl

/-- A draw from several values ends with the first raw word that is not rejected. -/
theorem exists_drawnAfter (several : lower < upper)
    (inWidth : rangeSize lower upper ≤ rawWords lower upper) (odd : IsOdd generator.increment) :
    ∃ rejections, DrawnAfter lower upper generator rejections (generator.drawBetween lower upper).1
      (generator.drawBetween lower upper).2 := by
  have moreThanOne : 1 < rangeSize lower upper := by
    unfold rangeSize
    omega
  obtain ⟨offset, moved, accepts⟩ := exists_accepts odd inWidth (rangeSize_pos lower upper)
  have drawn : generator.drawBetween lower upper = (lower + offset, moved) := by
    unfold rangeSize at moreThanOne accepts
    unfold drawBetween
    rw [drawBelow_of_accepts moreThanOne accepts]
  obtain ⟨rejections, acceptsAt, moved_eq⟩ := accepts.exists_acceptsAt
  rw [drawn]
  refine ⟨rejections, ?_, ?_, moved_eq⟩
  · intro earlier before
    rw [placeBetween_rawWord, acceptsAt.rejected earlier before]
    rfl
  · rw [placeBetween_rawWord, acceptsAt.placed]
    rfl

theorem reaches_tryWords (size tries : Nat) (generator : Generator) :
    generator.Reaches (tryWords size tries generator).2 := by
  induction tries generalizing generator with
  | zero => exact reaches_afterWord size generator
  | succ tries inductionHypothesis =>
      unfold tryWords
      dsimp only
      split
      · exact reaches_afterWord size generator
      · exact (reaches_afterWord size generator).trans (inductionHypothesis _)

theorem reaches_drawBetween (lower upper : Int) (generator : Generator) :
    generator.Reaches (generator.drawBetween lower upper).2 := by
  unfold drawBetween drawBelow
  by_cases single : (upper - lower).toNat + 1 ≤ 1
  · rw [if_pos single]
    exact .refl
  · rw [if_neg single]
    exact reaches_tryWords _ _ generator

/-- Drawing a point is an earlier draw for the next one. -/
theorem reaches_drawBox (lowers uppers : List Int) (generator : Generator) :
    generator.Reaches (generator.drawBox lowers uppers).2 := by
  induction lowers generalizing uppers generator with
  | nil => exact .refl
  | cons lower lowers inductionHypothesis =>
      cases uppers with
      | nil => exact .refl
      | cons upper uppers =>
          exact (reaches_drawBetween lower upper generator).trans (inductionHypothesis uppers _)

/-- Every coordinate is drawn from the generator that those before it have left. -/
theorem getElem?_drawBox {position : Nat} (lowerAt : lowers[position]? = some lower)
    (upperAt : uppers[position]? = some upper) (generator : Generator) :
    (generator.drawBox lowers uppers).1[position]? =
      some ((generator.drawBox (lowers.take position) (uppers.take position)).2.drawBetween
        lower upper).1 := by
  induction lowers generalizing uppers generator position with
  | nil => cases lowerAt
  | cons first lowers inductionHypothesis =>
      cases uppers with
      | nil => cases upperAt
      | cons second uppers =>
          cases position with
          | zero =>
              cases lowerAt
              cases upperAt
              rfl
          | succ position =>
              have later := inductionHypothesis lowerAt upperAt
                (generator.drawBetween first second).2
              unfold drawBox
              rw [List.getElem?_cons_succ]
              exact later

/-- A point is drawn coordinate by coordinate, and each loop ends with the first raw word that is
not rejected. -/
inductive Completes : List Int → List Int → Generator → List Int → Generator → Prop
  | nil (generator : Generator) : Completes [] [] generator [] generator
  | single {value : Int} {lowers uppers point : List Int} {generator last : Generator}
      (others : Completes lowers uppers generator point last) :
      Completes (value :: lowers) (value :: uppers) generator (value :: point) last
  | several {lower upper value : Int} {lowers uppers point : List Int}
      {generator moved last : Generator} {rejections : Nat} (several : lower < upper)
      (drawn : DrawnAfter lower upper generator rejections value moved)
      (others : Completes lowers uppers moved point last) :
      Completes (lower :: lowers) (upper :: uppers) generator (value :: point) last

theorem completes_drawBox (ranges : List.Forall₂ (· ≤ ·) lowers uppers)
    (lowersFit : ∀ limit ∈ lowers, LinearProblem.fitsWord limit = true)
    (uppersFit : ∀ limit ∈ uppers, LinearProblem.fitsWord limit = true)
    (odd : IsOdd generator.increment) :
    Completes lowers uppers generator (generator.drawBox lowers uppers).1
      (generator.drawBox lowers uppers).2 := by
  induction ranges generalizing generator with
  | nil => exact .nil generator
  | @cons lower upper lowers uppers ordered _ inductionHypothesis =>
      obtain ⟨lowerFits, otherLowers⟩ := List.forall_mem_cons.mp lowersFit
      obtain ⟨upperFits, otherUppers⟩ := List.forall_mem_cons.mp uppersFit
      have inWidth := rangeSize_le_rawWords lowerFits upperFits
      rcases Int.lt_or_eq_of_le ordered with several | rfl
      · have stillOdd := (reaches_drawBetween lower upper generator).isOdd odd
        obtain ⟨rejections, drawn⟩ := exists_drawnAfter several inWidth odd
        exact .several several drawn (inductionHypothesis otherLowers otherUppers stillOdd)
      · have others := inductionHypothesis otherLowers otherUppers odd
        unfold drawBox
        rw [drawBetween_self]
        exact .single others

/-- Whatever the state of a generator, it comes to one from which the value is drawn. -/
theorem exists_reaches_drawBetween (several : lower < upper)
    (inWidth : rangeSize lower upper ≤ rawWords lower upper) (above : lower ≤ value)
    (below : value ≤ upper) (odd : IsOdd generator.increment) :
    ∃ later, generator.Reaches later ∧ (later.drawBetween lower upper).1 = value := by
  have inRange : (value - lower).toNat < rangeSize lower upper := by
    unfold rangeSize
    omega
  have moreThanOne : 1 < rangeSize lower upper := by
    unfold rangeSize
    omega
  obtain ⟨count, placed⟩ := exists_tryWord_eq_some odd inWidth inRange
  refine ⟨_, reaches_iterate_afterWord (rangeSize lower upper) generator count, ?_⟩
  unfold rangeSize at moreThanOne placed ⊢
  unfold drawBetween
  rw [drawBelow_of_accepts moreThanOne (.placed placed)]
  change lower + ((value - lower).toNat : Int) = value
  omega

end Generator

namespace LinearProblem

variable {problem : LinearProblem}

theorem outcome_draw (fits : problem.FitsWords) (generator : Generator) (surroundings : σ) :
    problem.draw.outcome (generator, surroundings) =
        problem.mixOf ((generator.drawBox problem.lower problem.upper).1.map .int) ∧
      problem.draw.after (generator, surroundings) =
        ((generator.drawBox problem.lower problem.upper).2, surroundings) := by
  unfold Action.outcome Action.after
  rw [draw_of_checkBox (checkBox_eq_ok_iff.mpr fits)]
  cases problem.mixOf ((generator.drawBox problem.lower problem.upper).1.map .int) with
  | ok mix => exact ⟨rfl, rfl⟩
  | error fault => exact ⟨rfl, rfl⟩

theorem generator_natCast (n : Nat) :
    (Seed.value (.int n)).generator = .ok (Generator.ofSequence (SeedSequence.ofNat n)) := by
  unfold Seed.generator
  simp only [Seed.toSequence, SeedSequence.ofEntropy_natCast]
  rfl

/-- From every generator that the stream of a seed reaches, a draw ends: for every variable with
several values a raw word comes after finitely many that is not rejected.  The draw gives what the
goal makes of the point, and leaves a generator that is reached again. -/
theorem draw_ends {draft : LinearDraft} {problem : LinearProblem}
    (made : draft.toProblem = .ok problem) (fits : problem.FitsWords) {seed : Seed}
    {first generator : Generator} (seeded : seed.generator = .ok first)
    (reached : first.Reaches generator) (surroundings : σ) :
    ∃ point last,
      Generator.Completes problem.lower problem.upper generator point last ∧
      problem.draw.outcome (generator, surroundings) = problem.mixOf (point.map .int) ∧
      problem.draw.after (generator, surroundings) = (last, surroundings) ∧
      first.Reaches last := by
  have formed := LinearDraft.isWellFormed_of_toProblem made
  have odd := reached.isOdd (Generator.isOdd_of_seed seeded)
  have completes := Generator.completes_drawBox formed.ranges fits.lower fits.upper odd
  have drawn := outcome_draw fits generator surroundings
  have moved := Generator.reaches_drawBox problem.lower problem.upper generator
  exact ⟨_, _, completes, drawn.1, drawn.2, reached.trans moved⟩

theorem draw_ends_productMix :
    let first := Generator.ofSequence (SeedSequence.ofNat 7)
    first.Reaches first.nextHalf.2 ∧
      ∃ point last,
        Generator.Completes [1, 1] [174, 174] first.nextHalf.2 point last ∧
        productMix.draw.outcome (first.nextHalf.2, ()) = productMix.mixOf (point.map .int) ∧
        first.Reaches last := by
  intro first
  have reached : first.Reaches first.nextHalf.2 := .single (Or.inr rfl)
  have made : productMixDraft.toProblem = .ok productMix := rfl
  have fits : productMix.FitsWords := ⟨by decide, by decide⟩
  obtain ⟨point, last, completes, outcome, _, moved⟩ :=
    draw_ends made fits (generator_natCast 7) reached ()
  exact ⟨reached, point, last, completes, outcome, moved⟩

/-- The draw of a variable with several values gives what the first raw word places that is not
rejected, taken from the generator that the variables before it have left, and this is the value
that the mix has for it.  The raw words are shared out evenly among the values between its limits,
each of which is drawn some time from every stream, and every point of the box is placed by some raw
words. -/
theorem draw_uniform {problem : LinearProblem} (fits : problem.FitsWords) {position : Nat}
    {lower upper : Int} (lowerAt : problem.lower[position]? = some lower)
    (upperAt : problem.upper[position]? = some upper) (several : lower < upper) {seed : Seed}
    {first generator : Generator} (seeded : seed.generator = .ok first)
    (reached : first.Reaches generator) (surroundings : σ) :
    (∃ (point : List Int) (rejections : Nat) (value : Int) (moved : Generator),
      problem.draw.outcome (generator, surroundings) = problem.mixOf (point.map .int) ∧
      point[position]? = some value ∧
      (∀ mix, problem.draw.outcome (generator, surroundings) = .ok mix →
        mix.values[position]? = some (.int value)) ∧
      Generator.DrawnAfter lower upper
        (generator.drawBox (problem.lower.take position) (problem.upper.take position)).2
        rejections value moved) ∧
    Generator.SharesEvenly lower upper ∧
    (∀ value, lower ≤ value → value ≤ upper →
      ∃ later, generator.Reaches later ∧ (later.drawBetween lower upper).1 = value) ∧
    ∀ point, List.Forall₂ (· ≤ ·) problem.lower point → List.Forall₂ (· ≤ ·) point problem.upper →
      ∃ words, Generator.PlacesPoint problem.lower problem.upper words point := by
  have lowerFits := fits.lower lower (List.mem_of_getElem? lowerAt)
  have upperFits := fits.upper upper (List.mem_of_getElem? upperAt)
  have inWidth := Generator.rangeSize_le_rawWords lowerFits upperFits
  have odd := reached.isOdd (Generator.isOdd_of_seed seeded)
  have moved := Generator.reaches_drawBox (problem.lower.take position)
    (problem.upper.take position) generator
  refine ⟨?_, ?_, ?_, ?_⟩
  · obtain ⟨rejections, drawn⟩ := Generator.exists_drawnAfter several inWidth (moved.isOdd odd)
    have made := (outcome_draw fits generator surroundings).1
    have place := Generator.getElem?_drawBox lowerAt upperAt generator
    refine ⟨_, rejections, _, _, made, place, fun mix given => ?_, drawn⟩
    rw [values_of_mixOf (made.symm.trans given), List.getElem?_map, place]
    rfl
  · exact Generator.sharesEvenly (Int.le_of_lt several) inWidth
  · intro value above below
    exact Generator.exists_reaches_drawBetween several inWidth above below odd
  · intro point aboveLowers belowUppers
    exact Generator.exists_placesPoint fits.lower fits.upper aboveLowers belowUppers

theorem draw_uniform_widths :
    (∃ (mix : Mix) (value : Int) (rejections : Nat) (before moved : Generator),
      widths.draw.outcome (Generator.ofSequence (SeedSequence.ofNat 7), ()) = .ok mix ∧
        mix.values[2]? = some (.int value) ∧
        Generator.DrawnAfter 0 0x100000000 before rejections value moved) ∧
      (Generator.wordsBetween (-1) 0xfffffffe 7).card = 1 ∧
      (Generator.wordsBetween 0 0x100000000 0x100000000).card = 0xffffffff ∧
        (Generator.wordsBetween (-0x8000000000000000) 0x7fffffffffffffff (-3)).card = 1 := by
  have fits : widths.FitsWords := ⟨by decide, by decide⟩
  have seeded := generator_natCast 7
  obtain ⟨_, half, _, _⟩ :=
    @draw_uniform Unit widths fits 1 (-1) 0xfffffffe rfl rfl (by decide) _ _ _ seeded .refl ()
  obtain ⟨⟨point, rejections, value, moved, made, _, shown, drawn⟩, wider, _, _⟩ :=
    @draw_uniform Unit widths fits 2 0 0x100000000 rfl rfl (by decide) _ _ _ seeded .refl ()
  obtain ⟨_, whole, _, _⟩ :=
    @draw_uniform Unit widths fits 3 (-0x8000000000000000) 0x7fffffffffffffff rfl rfl (by decide)
      _ _ _ seeded .refl ()
  have mixed := made.trans (mixOf_eq_ok (by decide) point)
  refine ⟨⟨_, value, rejections, _, moved, mixed, shown _ mixed, drawn⟩, ?_, ?_, ?_⟩
  · rw [half.share 7 (by decide) (by decide)]
    exact half.whole (Or.inl rfl)
  · rw [wider.share 0x100000000 (by decide) (by decide)]
    rfl
  · rw [whole.share (-3) (by decide) (by decide)]
    exact whole.whole (Or.inr rfl)

end LinearProblem

end RandomSearch
