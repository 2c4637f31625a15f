import Mathlib.Data.List.Basic
import RandomSearch.Listed
import RandomSearch.Proofs.Outcomes
import RandomSearch.Proofs.Selection
import RandomSearch.Proofs.Session

/-!
# Reducing the winners of workers

A parallel search selects twice, once in every worker and once among the winners.  Nothing is lost
on the way: the entry that is returned is the one that a selection from the whole history finds, and
of several entries with the best goal the first.
-/

namespace RandomSearch

variable {σ α : Type}

/-! ## What workers show -/

/-- The best entry shown is the one selected from the batch. -/
def Outcome.IsSelected (selector : Selector α) (outcome : Outcome α) : Prop :=
  selector.pick (outcome.batch.map some) = .ok outcome.best

/-- The leader of all batches is selected among the entries that have been selected from each of
them. -/
theorem Outcome.eq_leader_of_pick {selector : Selector α} {outcomes : List (Outcome α)}
    {winner : Option (Validated α)}
    (selected : ∀ outcome ∈ outcomes, outcome.IsSelected selector)
    (numbers : ∀ entry ∈ outcomes.flatMap Outcome.batch, entry.isValid = true →
      selector.HasNumber entry)
    (reduced : selector.pick ((outcomes.filterMap Outcome.best).map some) = .ok winner) :
    winner = selector.leader (outcomes.flatMap Outcome.batch) := by
  have bests : ∀ outcome ∈ outcomes, selector.leader outcome.batch = outcome.best := by
    intro outcome member
    have leads := selector.pick_of_hasNumber fun entry present =>
      numbers entry (List.mem_flatMap.mpr ⟨outcome, member, present⟩)
    exact Except.ok.inj (leads.symm.trans (selected outcome member))
  have winners : (outcomes.filterMap fun outcome => selector.leader outcome.batch) =
      outcomes.filterMap Outcome.best :=
    List.filterMap_congr bests
  rw [Selector.leader_flatMap, winners]
  refine Except.ok.inj (reduced.symm.trans ?_)
  refine Selector.pick_of_hasNumber fun entry member valid => ?_
  rw [← winners] at member
  obtain ⟨outcome, present, leads⟩ := List.mem_filterMap.mp member
  refine numbers entry (List.mem_flatMap.mpr ⟨outcome, present, ?_⟩) valid
  exact (Selector.mem_of_leader leads).1

namespace Sampler

/-- The sampler selects with the given selector. -/
def SelectsWith (sampler : Sampler σ α) (selector : Selector α) : Prop :=
  ∀ batch, sampler.problem.select batch = Action.ofExcept (selector.pick batch)

variable {sampler : Sampler σ α} {selector : Selector α}

theorem pick_of_best (selects : sampler.SelectsWith selector)
    {batch : List (Option (Validated α))} {worker : Option Int} {best : Option (Validated α)}
    {before after : σ} (found : sampler.best batch worker before = .ok best after) :
    selector.pick batch = .ok best := by
  unfold Sampler.best at found
  split at found
  · rename_i empty
    cases found
    rw [List.isEmpty_iff.mp empty]
    rfl
  · rw [Action.inPhase_eq_ok_iff, selects, Action.ofExcept_eq_ok_iff] at found
    exact found.1

theorem selectionsShow_isSelected (selects : sampler.SelectsWith selector) :
    sampler.SelectionsShow true (Outcome.IsSelected selector) := by
  intro worker batch outcome before after finished
  obtain ⟨best, middle, found, same⟩ := Action.bind_eq_ok_iff.mp finished
  cases same
  exact pick_of_best selects found

/-! ## One selection instead of two -/

/-- A parallel search adds entries to the history such that one selection from them finds what is
returned. -/
theorem pick_of_searchParallelOn (selects : sampler.SelectsWith selector)
    {dispatch : Dispatch} {samples workers threads : Value} {before after : Session σ α}
    {winner : Option (Validated α)}
    (returned : sampler.searchParallelOn samples workers threads dispatch before =
      .ok winner after)
    {earlier : List (Validated α)} (kept : before.history = some earlier) :
    ∃ entries, after.history = some (earlier ++ entries) ∧
      ((∀ entry ∈ entries, entry.isValid = true → selector.HasNumber entry) →
        winner = selector.leader entries) := by
  rcases of_searchParallelBy_eq_ok returned with ⟨_, rfl, rfl⟩ | ran
  · exact ⟨[], by rw [kept, List.append_nil], fun _ => rfl⟩
  · obtain ⟨count, seeds, later, outcomes, middle, last, _, _, carried, found, history⟩ := ran
    rw [kept] at carried history
    refine ⟨outcomes.flatMap Outcome.batch, history, fun numbers => ?_⟩
    have selected := (selectionsShow_isSelected selects).carryOut carried
    exact Outcome.eq_leader_of_pick selected numbers (pick_of_best selects found)

/-- A parallel search with an empty history that returns has found what one selection from the
history finds, which is the first of the best valid entries, and nothing only if no entry is
valid. -/
theorem searchParallelOn_eq_pick (selects : sampler.SelectsWith selector)
    {dispatch : Dispatch} {samples workers threads : Value} {before after : Session σ α}
    {winner : Option (Validated α)} {entries : List (Validated α)}
    (empty : before.history = some [])
    (returned : sampler.searchParallelOn samples workers threads dispatch before =
      .ok winner after)
    (history : after.history = some entries)
    (numbers : ∀ entry ∈ entries, entry.isValid = true → selector.HasNumber entry) :
    selector.pick (entries.map some) = .ok winner ∧
      (winner = none ↔ ∀ entry ∈ entries, entry.isValid = false) ∧
        ∀ best, winner = some best → ∃ position, selector.IsFirstBest entries position best := by
  obtain ⟨added, same, leads⟩ := pick_of_searchParallelOn selects returned empty
  cases history.symm.trans same
  have leader := leads numbers
  rw [List.nil_append] at numbers
  rw [List.nil_append, leader]
  refine ⟨Selector.pick_of_hasNumber numbers, Selector.leader_eq_none_iff, fun best found => ?_⟩
  exact Selector.exists_isFirstBest_of_leader numbers found

/-- A candidate that has nothing but a goal. -/
def ofGoal (goal : Int) : Record :=
  ⟨[(goalAttribute, .int goal)]⟩

/-- A sampler that draws candidates with the given goals, in turn, and looks for large ones. -/
def inTurn (goals : List Int) : Sampler Nat Record :=
  let items : List Listed := goals.map fun goal => .ok (ofGoal goal)
  ⟨(Problem.ofDraw (Listed.drawInTurn items) .usual).counted, []⟩

theorem searchParallelOn_eq_pick_inTurn :
    let entries : List (Validated Record) := [7, 5, 3, 7].map fun goal => ⟨ofGoal goal, []⟩
    (inTurn [3, 7, 7, 5]).searchParallelOn (.int 2) (.int 2) .null (.inTurns [1, 0, 1, 0])
        ⟨.value (.int 7), none, some [], 0⟩ =
      .ok (some ⟨ofGoal 7, []⟩) ⟨.value (.int 7), none, some entries, 4⟩ ∧
        ∃ position, Selector.usual.IsFirstBest entries position ⟨ofGoal 7, []⟩ := by
  intro entries
  have returned : (inTurn [3, 7, 7, 5]).searchParallelOn (.int 2) (.int 2) .null
      (.inTurns [1, 0, 1, 0]) ⟨.value (.int 7), none, some [], 0⟩ =
        .ok (some ⟨ofGoal 7, []⟩) ⟨.value (.int 7), none, some entries, 4⟩ := rfl
  refine ⟨returned, ?_⟩
  have selects : (inTurn [3, 7, 7, 5]).SelectsWith Selector.usual := fun _ => rfl
  refine (searchParallelOn_eq_pick selects rfl returned rfl fun entry member _ => ?_).2.2 _ rfl
  obtain ⟨goal, _, rfl⟩ := List.mem_map.mp member
  exact ⟨.int goal, .int goal, rfl, rfl, fun undefined => by cases undefined⟩

theorem selectsWith_largestSum : sums.SelectsWith largestSum :=
  fun _ => rfl

theorem hasNumber_largestSum (entry : Validated (List Int)) : largestSum.HasNumber entry :=
  ⟨_, _, rfl, rfl, fun undefined => by cases undefined⟩

end Sampler

end RandomSearch
