import RandomSearch.Linear.Problem
import RandomSearch.Proofs.Reduction

/-!
# Goals that are undefined

A goal can be a number and still be undefined, and then it is neither better nor worse than any
other.  A selection keeps to the first valid entry until it meets a better one, so that it never
leaves an entry whose goal is undefined.  If a worker comes upon such an entry first, what else it
has drawn is lost on the last selection.
-/

namespace RandomSearch

theorem Extended.compare?_of_rank?_eq_none {left right : Extended}
    (undefined : left.rank? = none ∨ right.rank? = none) : left.compare? right = none := by
  rcases undefined with none | none
  · cases left with
    | undefined => exact Extended.compare?_undefined_left right
    | _ => cases none
  · cases right with
    | undefined => exact Extended.compare?_undefined_right left
    | _ => cases none

theorem Value.rank?_of_number {value : Value} {number : Number}
    (isNumber : value.number? = some number) : value.rank? = number.point.rank? := by
  unfold Value.rank?
  rw [isNumber]
  rfl

theorem Direction.prefers_of_undefined {direction : Direction} {goal incumbent : Value}
    {left right : Number} (goalNumber : goal.number? = some left)
    (incumbentNumber : incumbent.number? = some right)
    (undefined : goal.rank? = none ∨ incumbent.rank? = none) :
    direction.prefers goal incumbent = .ok false := by
  rw [Value.rank?_of_number goalNumber, Value.rank?_of_number incumbentNumber] at undefined
  have unordered : goal.order incumbent = .ok none := by
    rw [Value.order_of_number goalNumber incumbentNumber]
    exact congrArg Except.ok (Extended.compare?_of_rank?_eq_none undefined)
  unfold prefers Value.compare Value.compareBy
  cases direction with
  | maximise =>
      simp only [comparison, unordered]
      rfl
  | minimise =>
      simp only [comparison, unordered]
      rfl

namespace Selector

variable {α : Type} {selector : Selector α} {entry first second third winner : Validated α}
  {entries : List (Validated α)}

/-! ## Entries with numbers -/

/-- An entry whose goal is a number, which may be undefined. -/
def IsNumeric (selector : Selector α) (entry : Validated α) : Prop :=
  ∃ goal number, selector.goal entry.candidate = .ok goal ∧ goal.number? = some number

/-- The rank of the goal of an entry, if it is a number that is not undefined. -/
def rank? (selector : Selector α) (entry : Validated α) : Option Rank :=
  match selector.goal entry.candidate with
  | .ok goal => goal.rank?
  | .error _ => none

theorem rank?_of_goal {goal : Value} (reads : selector.goal entry.candidate = .ok goal) :
    selector.rank? entry = goal.rank? := by
  unfold Selector.rank?
  rw [reads]

/-- Both entries have a rank, and that of the first is the better one. -/
def Outranks (selector : Selector α) (first second : Validated α) : Prop :=
  ∃ place other, selector.rank? first = some place ∧ selector.rank? second = some other ∧
    selector.direction.Better place other

theorem not_outranks_self (selector : Selector α) (entry : Validated α) :
    ¬ selector.Outranks entry entry := by
  intro outranks
  obtain ⟨place, other, here, there, better⟩ := outranks
  cases here.symm.trans there
  exact better.not_better better

theorem Outranks.trans (before : selector.Outranks first second)
    (after : selector.Outranks second third) : selector.Outranks first third := by
  obtain ⟨place, _, here, middle, better⟩ := before
  obtain ⟨_, other, again, there, best⟩ := after
  cases middle.symm.trans again
  exact ⟨place, other, here, there, better.trans best⟩

theorem not_outranks_trans {place : Rank} (ranked : selector.rank? second = some place)
    (before : ¬ selector.Outranks first second) (after : ¬ selector.Outranks second third) :
    ¬ selector.Outranks first third := by
  intro outranks
  obtain ⟨best, worst, here, there, better⟩ := outranks
  have notBefore : ¬ selector.direction.Better best place :=
    fun outranks => before ⟨best, place, here, ranked, outranks⟩
  have notAfter : ¬ selector.direction.Better place worst :=
    fun outranks => after ⟨place, worst, ranked, there, outranks⟩
  exact Direction.not_better_trans notBefore notAfter better

/-- Among entries with numbers one is preferred exactly if it outranks the other. -/
theorem exists_prefers_of_isNumeric {goal incumbent : Value}
    (reads : selector.goal first.candidate = .ok goal)
    (incumbentReads : selector.goal second.candidate = .ok incumbent)
    (isNumeric : selector.IsNumeric first) (incumbentIsNumeric : selector.IsNumeric second) :
    ∃ preferred, selector.direction.prefers goal incumbent = .ok preferred ∧
      (preferred = true ↔ selector.Outranks first second) := by
  obtain ⟨_, left, again, goalNumber⟩ := isNumeric
  cases reads.symm.trans again
  obtain ⟨_, right, again, incumbentNumber⟩ := incumbentIsNumeric
  cases incumbentReads.symm.trans again
  unfold Outranks
  rw [rank?_of_goal reads, rank?_of_goal incumbentReads]
  cases goalRank : goal.rank? with
  | none =>
      have notPreferred := selector.direction.prefers_of_undefined goalNumber incumbentNumber
        (Or.inl goalRank)
      exact ⟨false, notPreferred, by simp⟩
  | some place =>
      cases incumbentRank : incumbent.rank? with
      | none =>
          have notPreferred := selector.direction.prefers_of_undefined goalNumber incumbentNumber
            (Or.inr incumbentRank)
          exact ⟨false, notPreferred, by simp⟩
      | some other => exact ⟨_, Direction.prefers_of_rank goalRank incumbentRank, by simp⟩

theorem beats_iff_of_isNumeric (isNumeric : selector.IsNumeric first)
    (otherIsNumeric : selector.IsNumeric second) :
    selector.Beats first second ↔ selector.Outranks first second := by
  obtain ⟨goal, number, reads, isNumber⟩ := isNumeric
  obtain ⟨incumbent, otherNumber, incumbentReads, otherIsNumber⟩ := otherIsNumeric
  obtain ⟨preferred, prefers, means⟩ := exists_prefers_of_isNumeric reads incumbentReads
    ⟨goal, number, reads, isNumber⟩ ⟨incumbent, otherNumber, incumbentReads, otherIsNumber⟩
  rw [← means]
  constructor
  · intro beats
    obtain ⟨_, _, again, incumbentAgain, preferredAgain⟩ := beats
    cases reads.symm.trans again
    cases incumbentReads.symm.trans incumbentAgain
    exact Except.ok.inj (prefers.symm.trans preferredAgain)
  · intro holds
    rw [holds] at prefers
    exact ⟨goal, incumbent, reads, incumbentReads, prefers⟩

/-- Whether the goal of the first entry is strictly better than that of the second, as it is
computed. -/
def beats? (selector : Selector α) (first second : Validated α) : Bool :=
  match selector.goal first.candidate, selector.goal second.candidate with
  | .ok goal, .ok incumbent =>
      match selector.direction.prefers goal incumbent with
      | .ok preferred => preferred
      | .error _ => false
  | _, _ => false

theorem beats_of_beats? (computed : selector.beats? first second = true) :
    selector.Beats first second := by
  unfold beats? at computed
  split at computed
  · rename_i goal incumbent reads incumbentReads
    split at computed
    · rename_i preferred prefers
      rw [computed] at prefers
      exact ⟨goal, incumbent, reads, incumbentReads, prefers⟩
    · cases computed
  · cases computed

/-! ## One selection -/

/-- The winner of a selection that came upon `first` as the first valid entry: it is that entry or
outranks it, and no valid entry outranks the winner. -/
structure Settles (selector : Selector α) (first : Validated α) (entries : List (Validated α))
    (winner : Validated α) : Prop where
  isNumeric : selector.IsNumeric winner
  keeps : winner = first ∨ selector.Outranks winner first
  unbeaten : ∀ entry ∈ entries, entry.isValid = true → ¬ selector.Outranks entry winner

namespace Settles

/-- A selection never leaves an entry that has no rank. -/
theorem eq_of_rank?_eq_none (settles : selector.Settles first entries winner)
    (undefined : selector.rank? first = none) : winner = first := by
  rcases settles.keeps with same | ⟨_, other, _, ranked, _⟩
  · exact same
  · rw [undefined] at ranked
    cases ranked

theorem cons_of_not_isValid (settles : selector.Settles first entries winner)
    (notValid : entry.isValid = false) : selector.Settles first (entry :: entries) winner where
  isNumeric := settles.isNumeric
  keeps := settles.keeps
  unbeaten other member valid := by
    rcases List.mem_cons.mp member with rfl | later
    · rw [notValid] at valid
      cases valid
    · exact settles.unbeaten other later valid

theorem cons_of_not_outranks (settles : selector.Settles first entries winner)
    (notBetter : ¬ selector.Outranks entry first) :
    selector.Settles first (entry :: entries) winner where
  isNumeric := settles.isNumeric
  keeps := settles.keeps
  unbeaten other member valid := by
    rcases List.mem_cons.mp member with rfl | later
    · intro outranks
      rcases settles.keeps with rfl | better
      · exact notBetter outranks
      · exact notBetter (outranks.trans better)
    · exact settles.unbeaten other later valid

theorem cons_of_outranks (settles : selector.Settles entry entries winner)
    (better : selector.Outranks entry first) :
    selector.Settles first (entry :: entries) winner where
  isNumeric := settles.isNumeric
  keeps := by
    rcases settles.keeps with rfl | best
    · exact Or.inr better
    · exact Or.inr (best.trans better)
  unbeaten := by
    have held := settles.cons_of_not_outranks (selector.not_outranks_self entry)
    exact held.unbeaten

end Settles

/-- A selection that holds an entry with a number goes through all others with numbers. -/
theorem exists_settles_of_pickFrom {goal : Value}
    (reads : selector.goal first.candidate = .ok goal) (isNumeric : selector.IsNumeric first)
    (numeric : ∀ entry ∈ entries, entry.isValid = true → selector.IsNumeric entry) :
    ∃ winner, selector.pickFrom (some (first, goal)) (entries.map some) = .ok (some winner) ∧
      selector.Settles first entries winner := by
  induction entries generalizing first goal with
  | nil =>
      refine ⟨first, rfl, isNumeric, Or.inl rfl, fun entry member => ?_⟩
      cases member
  | cons entry rest inductionHypothesis =>
      have restNumeric := fun other member => numeric other (List.mem_cons_of_mem entry member)
      rw [List.map_cons]
      -- The entry held changes only where the next one outranks it.
      cases valid : entry.isValid with
      | false =>
          rw [pickFrom_of_not_isValid selector _ valid]
          obtain ⟨winner, picked, settles⟩ := inductionHypothesis reads isNumeric restNumeric
          exact ⟨winner, picked, settles.cons_of_not_isValid valid⟩
      | true =>
          have entryNumeric := numeric entry List.mem_cons_self valid
          obtain ⟨entryGoal, number, entryReads, _⟩ := numeric entry List.mem_cons_self valid
          obtain ⟨preferred, prefers, means⟩ :=
            exists_prefers_of_isNumeric entryReads reads entryNumeric isNumeric
          simp only [pickFrom, valid, if_true, entryReads, prefers]
          cases preferred with
          | true =>
              obtain ⟨winner, picked, settles⟩ :=
                inductionHypothesis entryReads entryNumeric restNumeric
              exact ⟨winner, picked, settles.cons_of_outranks (means.mp rfl)⟩
          | false =>
              obtain ⟨winner, picked, settles⟩ := inductionHypothesis reads isNumeric restNumeric
              have notBetter : ¬ selector.Outranks entry first :=
                fun outranks => Bool.false_ne_true (means.mpr outranks)
              exact ⟨winner, picked, settles.cons_of_not_outranks notBetter⟩

/-- A selection from entries with numbers settles on one, if some are valid. -/
theorem exists_settles_of_pick
    (numeric : ∀ entry ∈ entries, entry.isValid = true → selector.IsNumeric entry)
    (found : entries.find? Validated.isValid = some first) :
    ∃ winner, selector.pick (entries.map some) = .ok (some winner) ∧
      selector.Settles first entries winner := by
  unfold pick
  induction entries with
  | nil => cases found
  | cons entry rest inductionHypothesis =>
      have restNumeric := fun other member => numeric other (List.mem_cons_of_mem entry member)
      rw [List.map_cons]
      cases valid : entry.isValid with
      | false =>
          rw [List.find?_cons_of_neg (by rw [valid]; exact Bool.false_ne_true)] at found
          rw [pickFrom_of_not_isValid selector _ valid]
          obtain ⟨winner, picked, settles⟩ := inductionHypothesis restNumeric found
          exact ⟨winner, picked, settles.cons_of_not_isValid valid⟩
      | true =>
          rw [List.find?_cons_of_pos valid] at found
          cases found
          have isNumeric := numeric first List.mem_cons_self valid
          obtain ⟨goal, number, reads, _⟩ := numeric first List.mem_cons_self valid
          obtain ⟨winner, picked, settles⟩ :=
            exists_settles_of_pickFrom reads isNumeric restNumeric
          refine ⟨winner, ?_, settles.cons_of_not_outranks (selector.not_outranks_self first)⟩
          simpa only [pickFrom, valid, if_true, reads] using picked

theorem pick_of_find?_eq_none (found : entries.find? Validated.isValid = none) :
    selector.pick (entries.map some) = .ok none := by
  unfold pick
  induction entries with
  | nil => rfl
  | cons entry rest inductionHypothesis =>
      have notValid := List.forall_mem_cons.mp (List.find?_eq_none.mp found)
      have entryNotValid := Bool.eq_false_of_not_eq_true notValid.1
      rw [List.map_cons, pickFrom_of_not_isValid selector _ entryNotValid]
      exact inductionHypothesis (List.find?_eq_none.mpr notValid.2)

/-- There is a valid entry, and the first one has no rank. -/
def StartsUndefined (selector : Selector α) (entries : List (Validated α)) : Prop :=
  ∃ first, entries.find? Validated.isValid = some first ∧ selector.rank? first = none

end Selector

/-! ## A selection among winners -/

section

variable {α : Type} {selector : Selector α} {outcomes : List (Outcome α)}

/-- What a selection from a batch with numbers has come to. -/
theorem Outcome.IsSelected.settles {outcome : Outcome α} (selected : outcome.IsSelected selector)
    (numeric : ∀ entry ∈ outcome.batch, entry.isValid = true → selector.IsNumeric entry) :
    (outcome.best = none ∧ outcome.batch.find? Validated.isValid = none) ∨
      ∃ first best, outcome.best = some best ∧
        outcome.batch.find? Validated.isValid = some first ∧ best.isValid = true ∧
          selector.Settles first outcome.batch best := by
  cases found : outcome.batch.find? Validated.isValid with
  | none =>
      have nothing : selector.pick (outcome.batch.map some) = .ok none :=
        Selector.pick_of_find?_eq_none found
      exact Or.inl ⟨Except.ok.inj (selected.symm.trans nothing), rfl⟩
  | some first =>
      obtain ⟨best, picked, settles⟩ := Selector.exists_settles_of_pick numeric found
      have same : outcome.best = some best := Except.ok.inj (selected.symm.trans picked)
      exact Or.inr ⟨first, best, same, rfl, (selector.pick_mem picked).2, settles⟩

/-- The first winner is the first valid entry of all batches, or outranks it. -/
theorem Outcome.head?_winners (selected : ∀ outcome ∈ outcomes, outcome.IsSelected selector)
    (numeric : ∀ outcome ∈ outcomes, ∀ entry ∈ outcome.batch, entry.isValid = true →
      selector.IsNumeric entry)
    {first : Validated α}
    (found : (outcomes.flatMap Outcome.batch).find? Validated.isValid = some first) :
    ∃ best, (outcomes.filterMap Outcome.best).head? = some best ∧
      (best = first ∨ selector.Outranks best first) := by
  induction outcomes with
  | nil => cases found
  | cons outcome rest inductionHypothesis =>
      have restSelected := fun other member => selected other (List.mem_cons_of_mem outcome member)
      have restNumeric := fun other member => numeric other (List.mem_cons_of_mem outcome member)
      rw [List.flatMap_cons, List.find?_append] at found
      rcases (selected outcome List.mem_cons_self).settles
          (numeric outcome List.mem_cons_self) with ⟨noBest, noValid⟩ | settled
      · rw [noValid, Option.none_or] at found
        rw [List.filterMap_cons_none noBest]
        exact inductionHypothesis restSelected restNumeric found
      · obtain ⟨head, best, isBest, isFirst, _, settles⟩ := settled
        rw [isFirst, Option.some_or] at found
        cases found
        rw [List.filterMap_cons_some isBest]
        exact ⟨best, rfl, settles.keeps⟩

theorem Outcome.settles_of_winners
    (selected : ∀ outcome ∈ outcomes, outcome.IsSelected selector)
    (numeric : ∀ outcome ∈ outcomes, ∀ entry ∈ outcome.batch, entry.isValid = true →
      selector.IsNumeric entry)
    {winner : Validated α}
    (reduced : selector.pick ((outcomes.filterMap Outcome.best).map some) = .ok (some winner)) :
    ∃ head, (outcomes.filterMap Outcome.best).head? = some head ∧
      selector.Settles head (outcomes.filterMap Outcome.best) winner ∧
        ∀ best ∈ outcomes.filterMap Outcome.best, best.isValid = true := by
  have winners : ∀ best ∈ outcomes.filterMap Outcome.best,
      best.isValid = true ∧ selector.IsNumeric best := by
    intro best member
    obtain ⟨outcome, present, isBest⟩ := List.mem_filterMap.mp member
    rcases (selected outcome present).settles (numeric outcome present) with
      ⟨noBest, _⟩ | ⟨_, found, same, _, foundValid, settles⟩
    · cases isBest.symm.trans noBest
    · cases isBest.symm.trans same
      exact ⟨foundValid, settles.isNumeric⟩
  have allValid := fun best member => (winners best member).1
  have allNumeric := fun best member (_ : best.isValid = true) => (winners best member).2
  cases all : outcomes.filterMap Outcome.best with
  | nil =>
      rw [all] at reduced
      cases reduced
  | cons head rest =>
      rw [all] at reduced allValid allNumeric
      have isFirst : (head :: rest).find? Validated.isValid = some head :=
        List.find?_cons_of_pos (allValid head List.mem_cons_self)
      obtain ⟨found, picked, settles⟩ := Selector.exists_settles_of_pick allNumeric isFirst
      cases reduced.symm.trans picked
      exact ⟨head, rfl, settles, allValid⟩

/-- A valid entry outranks the winner among winners only if its own batch starts with an undefined
goal, and not all of them together do. -/
theorem Outcome.startsUndefined_of_outranks
    (selected : ∀ outcome ∈ outcomes, outcome.IsSelected selector)
    (numeric : ∀ outcome ∈ outcomes, ∀ entry ∈ outcome.batch, entry.isValid = true →
      selector.IsNumeric entry)
    {winner : Validated α}
    (reduced : selector.pick ((outcomes.filterMap Outcome.best).map some) = .ok (some winner))
    {outcome : Outcome α} (member : outcome ∈ outcomes) {entry : Validated α}
    (present : entry ∈ outcome.batch) (valid : entry.isValid = true)
    (outranks : selector.Outranks entry winner) :
    ¬ selector.StartsUndefined (outcomes.flatMap Outcome.batch) ∧
      selector.StartsUndefined outcome.batch := by
  obtain ⟨head, isHead, reducedSettles, winnersValid⟩ :=
    Outcome.settles_of_winners selected numeric reduced
  constructor
  · intro startsUndefined
    obtain ⟨first, found, undefined⟩ := startsUndefined
    -- A first entry without a rank is never left, so that it is the winner of all.
    obtain ⟨best, isBest, keeps⟩ := Outcome.head?_winners selected numeric found
    cases isHead.symm.trans isBest
    have headSame : head = first := by
      rcases keeps with same | ⟨_, _, _, ranked, _⟩
      · exact same
      · rw [undefined] at ranked
        cases ranked
    subst headSame
    have winnerSame := reducedSettles.eq_of_rank?_eq_none undefined
    obtain ⟨_, _, _, ranked, _⟩ := outranks
    rw [winnerSame, undefined] at ranked
    cases ranked
  · rcases (selected outcome member).settles (numeric outcome member) with
      ⟨_, noValid⟩ | ⟨first, best, isBest, isFirst, bestValid, settles⟩
    · exact absurd valid (List.find?_eq_none.mp noValid entry present)
    · have inWinners := List.mem_filterMap.mpr ⟨outcome, member, isBest⟩
      have notBest := reducedSettles.unbeaten best inWinners bestValid
      cases ranked : selector.rank? best with
      | some place =>
          have notEntry := settles.unbeaten entry present valid
          exact absurd outranks (Selector.not_outranks_trans ranked notEntry notBest)
      | none =>
          refine ⟨first, isFirst, ?_⟩
          rcases settles.keeps with same | ⟨place, _, bestRanked, _⟩
          · rw [← same]
            exact ranked
          · rw [ranked] at bestRanked
            cases bestRanked

end

namespace Sampler

variable {σ α : Type} {sampler : Sampler σ α} {selector : Selector α}

/-- Where all goals are numbers, the winner of a parallel search with an empty history is beaten by
a valid entry of the history only if the worker that drew this entry came upon an undefined goal
first, and the first worker with a valid entry did not.  So no entry beats the winner if no worker
comes upon an undefined goal first. -/
theorem unbeaten_of_searchParallelOn (selects : sampler.SelectsWith selector)
    {dispatch : Dispatch} {samples workers threads : Value} {before after : Session σ α}
    {winner : Validated α} {entries : List (Validated α)} (empty : before.history = some [])
    (returned : sampler.searchParallelOn samples workers threads dispatch before =
      .ok (some winner) after)
    (history : after.history = some entries)
    (numeric : ∀ entry ∈ entries, entry.isValid = true → selector.IsNumeric entry) :
    ∃ count children later outcomes middle,
      workers.toCount "worker count" = .ok count ∧
        before.seed.spawn count = .ok (children, later) ∧
          sampler.carryOut dispatch samples true children before.surroundings =
              .ok outcomes middle ∧
            entries = outcomes.flatMap Outcome.batch ∧
              ∀ outcome ∈ outcomes, ∀ entry ∈ outcome.batch, entry.isValid = true →
                selector.Beats entry winner →
                  selector.StartsUndefined outcome.batch ∧
                    ¬ selector.StartsUndefined entries := by
  rcases of_searchParallelBy_eq_ok returned with ⟨_, none, _⟩ | ran
  · cases none
  obtain ⟨count, children, later, outcomes, middle, last, counted, spawned, carried, chosen,
    added⟩ := ran
  rw [empty] at carried added
  have same : entries = outcomes.flatMap Outcome.batch :=
    Option.some.inj (history.symm.trans added)
  subst same
  refine ⟨count, children, later, outcomes, middle, counted, spawned, carried, rfl, ?_⟩
  have selected := (selectionsShow_isSelected selects).carryOut carried
  have batchNumeric : ∀ outcome ∈ outcomes, ∀ entry ∈ outcome.batch, entry.isValid = true →
      selector.IsNumeric entry :=
    fun outcome member entry present =>
      numeric entry (List.mem_flatMap.mpr ⟨outcome, member, present⟩)
  have reduced := pick_of_best selects chosen
  obtain ⟨_, _, settles, _⟩ := Outcome.settles_of_winners selected batchNumeric reduced
  intro outcome member entry present valid beats
  have entryNumeric := batchNumeric outcome member entry present valid
  have outranks := (Selector.beats_iff_of_isNumeric entryNumeric settles.isNumeric).mp beats
  exact (Outcome.startsUndefined_of_outranks selected batchNumeric reduced member present valid
    outranks).symm

/-! ## An endless slope -/

/-- A linear problem with one variable, whose goal is infinite on either side of zero and undefined
at zero. -/
def endlessSlope : LinearProblem :=
  ⟨[.str "x1"], [.float (1.0 / 0.0)], [-1], [1], [], .maximise⟩

/-- A search of the endless slope by two workers with two samples each. -/
def searchSlope (seed : Nat) : EStateM.Result Fault (Session Unit Mix) (Option (Validated Mix)) :=
  (⟨endlessSlope.toProblem, []⟩ : Sampler Unit Mix).searchParallelOn (.int 2) (.int 2) .null
    (.whole .threads) ⟨.value (.int seed), none, some [], ()⟩

def found? : EStateM.Result Fault (Session Unit Mix) (Option (Validated Mix)) →
    Option (Validated Mix × List (Validated Mix))
  | .ok (some winner) ⟨_, _, some entries, _⟩ => some (winner, entries)
  | _ => none

theorem exists_of_found? {result : EStateM.Result Fault (Session Unit Mix) (Option (Validated Mix))}
    {winner : Validated Mix} {entries : List (Validated Mix)}
    (found : found? result = some (winner, entries)) :
    ∃ after, result = .ok (some winner) after ∧ after.history = some entries := by
  unfold found? at found
  split at found
  · cases found
    exact ⟨_, rfl, rfl⟩
  · cases found

/-- The first worker finds a goal below all others, and the second worker comes upon zero before it
finds one above all others. -/
theorem exists_searchSlope :
    ∃ winner entries after,
      searchSlope 62 = .ok (some winner) after ∧ after.history = some entries ∧
        (∀ entry ∈ entries, endlessSlope.selector.IsNumeric entry) ∧
          ∃ entry ∈ entries, entry.isValid = true ∧ endlessSlope.selector.Beats entry winner := by
  have computed : (found? (searchSlope 62)).any (fun (winner, entries) =>
      entries.all (fun entry => entry.candidate.goal.number?.isSome) &&
        entries.any (fun entry => entry.isValid &&
          endlessSlope.selector.beats? entry winner)) = true := by
    decide +kernel
  obtain ⟨⟨winner, entries⟩, found, holds⟩ := Option.any_eq_true _ _ |>.mp computed
  obtain ⟨after, ran, history⟩ := exists_of_found? found
  obtain ⟨numbers, better⟩ := Bool.and_eq_true_iff.mp holds
  refine ⟨winner, entries, after, ran, history, ?_, ?_⟩
  · intro entry member
    have isSome := List.all_eq_true.mp numbers entry member
    obtain ⟨number, isNumber⟩ := Option.isSome_iff_exists.mp isSome
    exact ⟨entry.candidate.goal, number, rfl, isNumber⟩
  · obtain ⟨entry, member, holdsHere⟩ := List.any_eq_true.mp better
    obtain ⟨valid, beats⟩ := Bool.and_eq_true_iff.mp holdsHere
    exact ⟨entry, member, valid, Selector.beats_of_beats? beats⟩

/-- A winner that is worse than another valid entry of the history. -/
theorem searchSlope_beaten :
    ∃ winner entries after,
      searchSlope 62 = .ok (some winner) after ∧ after.history = some entries ∧
        ∃ entry ∈ entries, entry.isValid = true ∧
          endlessSlope.selector.Beats entry winner := by
  obtain ⟨winner, entries, after, ran, history, _, better⟩ := exists_searchSlope
  exact ⟨winner, entries, after, ran, history, better⟩

theorem unbeaten_of_searchParallelOn_searchSlope :
    ∃ (winner : Validated Mix) (entries : List (Validated Mix)) (after : Session Unit Mix)
      (outcomes : List (Outcome Mix)),
      searchSlope 62 = .ok (some winner) after ∧ after.history = some entries ∧
        entries = outcomes.flatMap Outcome.batch ∧
          ∃ outcome ∈ outcomes, endlessSlope.selector.StartsUndefined outcome.batch := by
  obtain ⟨winner, entries, after, ran, history, numeric, entry, member, valid, beats⟩ :=
    exists_searchSlope
  have selects : (⟨endlessSlope.toProblem, []⟩ : Sampler Unit Mix).SelectsWith
      endlessSlope.selector := fun _ => rfl
  obtain ⟨count, children, later, outcomes, middle, _, _, _, same, only⟩ :=
    unbeaten_of_searchParallelOn selects rfl ran history fun held present _ => numeric held present
  refine ⟨winner, entries, after, outcomes, ran, history, same, ?_⟩
  rw [same] at member
  obtain ⟨outcome, inOutcomes, present⟩ := List.mem_flatMap.mp member
  exact ⟨outcome, inOutcomes, (only outcome inOutcomes entry present valid beats).1⟩

end Sampler

end RandomSearch
