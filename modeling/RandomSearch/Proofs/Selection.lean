import RandomSearch.Proofs.Order
import RandomSearch.Selector

/-!
# What a selection finds

Goals that are numbers have a rank, which is a point of a linear order.  Among entries whose goals
have ranks, of two the better one leads, and of two equally good ones the first.  Leading is
associative, so that a selection among the winners of several batches finds what a selection among
all entries finds.
-/

namespace RandomSearch

/-! ## Better and worse -/

namespace Direction

variable {ι : Type} [LinearOrder ι] {direction : Direction} {first second third : ι}

/-- Whether the first of two points of a linear order is better than the second. -/
def Better (direction : Direction) (left right : ι) : Prop :=
  match direction with
  | .maximise => right < left
  | .minimise => left < right

instance (left right : ι) : Decidable (direction.Better left right) :=
  match direction with
  | .maximise => inferInstanceAs (Decidable (right < left))
  | .minimise => inferInstanceAs (Decidable (left < right))

theorem Better.trans (before : direction.Better first second)
    (after : direction.Better second third) : direction.Better first third := by
  cases direction with
  | maximise => exact lt_trans after before
  | minimise => exact lt_trans before after

theorem not_better_trans (before : ¬ direction.Better first second)
    (after : ¬ direction.Better second third) : ¬ direction.Better first third := by
  cases direction with
  | maximise => exact not_lt_of_ge (le_trans (not_lt.mp before) (not_lt.mp after))
  | minimise => exact not_lt_of_ge (le_trans (not_lt.mp after) (not_lt.mp before))

theorem Better.not_better (better : direction.Better first second) :
    ¬ direction.Better second first := by
  cases direction with
  | maximise => exact lt_asymm better
  | minimise => exact lt_asymm better

/-- One goal is preferred to another exactly if its rank is better. -/
theorem prefers_of_rank {first second : Rank} {goal incumbent : Value}
    (goalRank : goal.rank? = some first) (incumbentRank : incumbent.rank? = some second) :
    direction.prefers goal incumbent = .ok (decide (direction.Better first second)) := by
  unfold prefers
  rw [Value.compare_of_rank _ goalRank incumbentRank]
  cases direction with
  | maximise => rfl
  | minimise => rfl

theorem better_ofInt (direction : Direction) (left right : Int) :
    direction.Better (Rank.ofInt left) (Rank.ofInt right) ↔ direction.Better left right := by
  cases direction with
  | maximise => exact Comparison.relates_ofInt .gt left right
  | minimise => exact Comparison.relates_ofInt .lt left right

end Direction

namespace Selector

variable {α : Type}

/-! ## Comparing entries -/

/-- Whether the goal of the first entry is strictly better than that of the second. -/
def Beats (selector : Selector α) (left right : Validated α) : Prop :=
  ∃ goal incumbent, selector.goal left.candidate = .ok goal ∧
    selector.goal right.candidate = .ok incumbent ∧
      selector.direction.prefers goal incumbent = .ok true

/-- An entry whose goal is a number that is not undefined. -/
def HasNumber (selector : Selector α) (entry : Validated α) : Prop :=
  ∃ goal number, selector.goal entry.candidate = .ok goal ∧ goal.number? = some number ∧
    number.point ≠ .undefined

/-- The rank of the goal of an entry.  An entry without one is given the lowest. -/
def rank (selector : Selector α) (entry : Validated α) : Rank :=
  match selector.goal entry.candidate with
  | .ok goal => goal.rank?.getD ⊥
  | .error _ => ⊥

theorem HasNumber.rank {selector : Selector α} {entry : Validated α}
    (number : selector.HasNumber entry) :
    ∃ goal, selector.goal entry.candidate = .ok goal ∧ goal.rank? = some (selector.rank entry) := by
  obtain ⟨goal, value, reads, isNumber, defined⟩ := number
  refine ⟨goal, reads, ?_⟩
  obtain ⟨place, here⟩ := Extended.exists_rank defined
  have goalRank : goal.rank? = some place := by
    unfold Value.rank?
    rw [isNumber, Option.bind_some, here]
  unfold Selector.rank
  rw [reads]
  simp only [goalRank, Option.getD_some]

theorem beats_iff {selector : Selector α} {left right : Validated α}
    (leftNumber : selector.HasNumber left) (rightNumber : selector.HasNumber right) :
    selector.Beats left right ↔
      selector.direction.Better (selector.rank left) (selector.rank right) := by
  obtain ⟨goal, goalReads, goalRank⟩ := leftNumber.rank
  obtain ⟨incumbent, incumbentReads, incumbentRank⟩ := rightNumber.rank
  have prefers : selector.direction.prefers goal incumbent =
      .ok (decide (selector.direction.Better (selector.rank left) (selector.rank right))) :=
    Direction.prefers_of_rank goalRank incumbentRank
  constructor
  · rintro ⟨first, second, firstReads, secondReads, preferred⟩
    cases goalReads.symm.trans firstReads
    cases incumbentReads.symm.trans secondReads
    exact of_decide_eq_true (Except.ok.inj (prefers.symm.trans preferred))
  · intro better
    refine ⟨goal, incumbent, goalReads, incumbentReads, ?_⟩
    rw [prefers, decide_eq_true better]

/-! ## The leader -/

/-- The better of two entries, and of two equally good ones the first. -/
def lead (selector : Selector α) (held entry : Validated α) : Validated α :=
  if selector.direction.Better (selector.rank entry) (selector.rank held) then entry else held

instance (selector : Selector α) : Std.Associative selector.lead where
  assoc first second third := by
    simp only [lead]
    by_cases later : selector.direction.Better (selector.rank second) (selector.rank first)
    · by_cases last : selector.direction.Better (selector.rank third) (selector.rank second)
      · simp only [if_pos later, if_pos last, if_pos (last.trans later)]
      · simp only [if_pos later, if_neg last]
    · by_cases last : selector.direction.Better (selector.rank third) (selector.rank second)
      · simp only [if_neg later, if_pos last]
      · simp only [if_neg later, if_neg last, if_neg (Direction.not_better_trans last later)]

/-- The first of the best valid entries, if there are valid ones. -/
def leader (selector : Selector α) : List (Validated α) → Option (Validated α)
  | [] => none
  | entry :: rest =>
      if entry.isValid then
        Option.merge selector.lead (some entry) (selector.leader rest)
      else
        selector.leader rest

theorem leader_append (selector : Selector α) (entries others : List (Validated α)) :
    selector.leader (entries ++ others) =
      Option.merge selector.lead (selector.leader entries) (selector.leader others) := by
  induction entries with
  | nil => exact Option.merge_none_left.symm
  | cons entry rest inductionHypothesis =>
      simp only [List.cons_append, leader, inductionHypothesis]
      split
      · exact ((Option.associative_merge selector.lead).assoc _ _ _).symm
      · rfl

/-- The leader is one of the entries, and valid. -/
theorem mem_of_leader {selector : Selector α} {entries : List (Validated α)} {best : Validated α}
    (leads : selector.leader entries = some best) : best ∈ entries ∧ best.isValid = true := by
  induction entries generalizing best with
  | nil => cases leads
  | cons entry rest inductionHypothesis =>
      unfold leader at leads
      split at leads
      · rename_i valid
        cases later : selector.leader rest with
        | none =>
            rw [later, Option.merge_none_right] at leads
            cases leads
            exact ⟨List.mem_cons_self, valid⟩
        | some other =>
            rw [later, Option.merge_some_some] at leads
            cases leads
            unfold lead
            split
            · obtain ⟨member, otherValid⟩ := inductionHypothesis later
              exact ⟨List.mem_cons_of_mem entry member, otherValid⟩
            · exact ⟨List.mem_cons_self, valid⟩
      · obtain ⟨member, valid⟩ := inductionHypothesis leads
        exact ⟨List.mem_cons_of_mem entry member, valid⟩

theorem leader_eq_none_iff {selector : Selector α} {entries : List (Validated α)} :
    selector.leader entries = none ↔ ∀ entry ∈ entries, entry.isValid = false := by
  induction entries with
  | nil => simp [leader]
  | cons entry rest inductionHypothesis =>
      unfold leader
      cases valid : entry.isValid with
      | true =>
          simp only [if_true, Option.merge_eq_none_iff, reduceCtorEq, false_and, false_iff]
          intro none
          have contradiction := none entry List.mem_cons_self
          rw [valid] at contradiction
          cases contradiction
      | false => simpa [valid] using inductionHypothesis

/-- The leader of all batches together is the leader of their leaders. -/
theorem leader_flatMap {β : Type} (selector : Selector α) (batch : β → List (Validated α))
    (items : List β) :
    selector.leader (items.flatMap batch) =
      selector.leader (items.filterMap fun item => selector.leader (batch item)) := by
  induction items with
  | nil => rfl
  | cons item rest inductionHypothesis =>
      rw [List.flatMap_cons, leader_append, inductionHypothesis]
      cases leads : selector.leader (batch item) with
      | none => simp only [Option.merge_none_left, List.filterMap_cons, leads]
      | some best =>
          simp only [List.filterMap_cons, leads, leader, if_pos (mem_of_leader leads).2]

/-! ## The first of the best -/

/-- The entry at a position is the first of the best valid entries. -/
structure IsFirstBest (selector : Selector α) (entries : List (Validated α)) (position : Nat)
    (best : Validated α) : Prop where
  found : entries[position]? = some best
  isValid : best.isValid = true
  /-- It is strictly better than every valid entry before it. -/
  beats : ∀ earlier < position, ∀ entry, entries[earlier]? = some entry → entry.isValid = true →
    selector.Beats best entry
  /-- No valid entry is strictly better. -/
  unbeaten : ∀ entry ∈ entries, entry.isValid = true → ¬ selector.Beats entry best

namespace IsFirstBest

variable {selector : Selector α} {entries : List (Validated α)} {entry best other : Validated α}
  {position place : Nat}

/-- A valid entry that no later one beats is the first of the best. -/
theorem head (valid : entry.isValid = true) (irreflexive : ¬ selector.Beats entry entry)
    (unbeaten : ∀ held ∈ entries, held.isValid = true → ¬ selector.Beats held entry) :
    selector.IsFirstBest (entry :: entries) 0 entry where
  found := rfl
  isValid := valid
  beats earlier before := absurd before (Nat.not_lt_zero earlier)
  unbeaten held member heldValid := by
    rcases List.mem_cons.mp member with rfl | later
    · exact irreflexive
    · exact unbeaten held later heldValid

/-- The first of the best of the rest is that of all, if it is strictly better than the entry in
front, or if that is not valid. -/
theorem cons (first : selector.IsFirstBest entries position best)
    (behind : entry.isValid = true → selector.Beats best entry)
    (notBetter : entry.isValid = true → ¬ selector.Beats entry best) :
    selector.IsFirstBest (entry :: entries) (position + 1) best where
  found := first.found
  isValid := first.isValid
  beats earlier before held here valid := by
    cases earlier with
    | zero =>
        cases here
        exact behind valid
    | succ earlier => exact first.beats earlier (by omega) held here valid
  unbeaten held member valid := by
    rcases List.mem_cons.mp member with rfl | later
    · exact notBetter valid
    · exact first.unbeaten held later valid

end IsFirstBest

/-- The leader is the first of the best. -/
theorem exists_isFirstBest_of_leader {selector : Selector α} {entries : List (Validated α)}
    (numbers : ∀ entry ∈ entries, entry.isValid = true → selector.HasNumber entry)
    {best : Validated α} (leads : selector.leader entries = some best) :
    ∃ position, selector.IsFirstBest entries position best := by
  induction entries generalizing best with
  | nil => cases leads
  | cons entry rest inductionHypothesis =>
      have later := fun {other : Validated α} (leads : selector.leader rest = some other) =>
        inductionHypothesis
          (fun held member => numbers held (List.mem_cons_of_mem entry member)) leads
      unfold leader at leads
      split at leads
      · rename_i valid
        have entryNumber := numbers entry List.mem_cons_self valid
        have irreflexive : ¬ selector.Beats entry entry := by
          rw [beats_iff entryNumber entryNumber]
          exact fun better => better.not_better better
        cases leadsLater : selector.leader rest with
        | none =>
            rw [leadsLater, Option.merge_none_right] at leads
            cases leads
            refine ⟨0, .head valid irreflexive fun held member heldValid => ?_⟩
            have notValid := leader_eq_none_iff.mp leadsLater held member
            rw [heldValid] at notValid
            cases notValid
        | some other =>
            obtain ⟨position, first⟩ := later leadsLater
            have otherNumber := numbers other
              (List.mem_cons_of_mem entry (List.mem_of_getElem? first.found)) first.isValid
            rw [leadsLater, Option.merge_some_some] at leads
            unfold lead at leads
            split at leads
            · rename_i better
              cases leads
              refine ⟨position + 1, first.cons (fun _ => ?_) (fun _ => ?_)⟩
              · exact (beats_iff otherNumber entryNumber).mpr better
              · rw [beats_iff entryNumber otherNumber]
                exact better.not_better
            · rename_i notBetter
              cases leads
              refine ⟨0, .head valid irreflexive fun held member heldValid => ?_⟩
              have heldNumber := numbers held (List.mem_cons_of_mem entry member) heldValid
              have behind := first.unbeaten held member heldValid
              rw [beats_iff heldNumber otherNumber] at behind
              rw [beats_iff heldNumber entryNumber]
              exact Direction.not_better_trans behind notBetter
      · rename_i notValid
        obtain ⟨position, first⟩ := later leads
        exact ⟨position + 1, first.cons (fun valid => absurd valid notValid)
          (fun valid => absurd valid notValid)⟩

/-! ## Selections -/

/-- A selection from entries whose goals are numbers finds their leader. -/
theorem pickFrom_of_hasNumber {selector : Selector α} {entries : List (Validated α)}
    (numbers : ∀ entry ∈ entries, entry.isValid = true → selector.HasNumber entry)
    {best : Option (Validated α × Value)}
    (bestNumber : ∀ held goal, best = some (held, goal) →
      selector.goal held.candidate = .ok goal ∧ goal.rank? = some (selector.rank held)) :
    selector.pickFrom best (entries.map some) =
      .ok (Option.merge selector.lead (best.map Prod.fst) (selector.leader entries)) := by
  induction entries generalizing best with
  | nil => exact congrArg Except.ok Option.merge_none_right.symm
  | cons entry rest inductionHypothesis =>
      have later : ∀ {held : Option (Validated α × Value)},
          (∀ other goal, held = some (other, goal) →
            selector.goal other.candidate = .ok goal ∧
              goal.rank? = some (selector.rank other)) →
          selector.pickFrom held (rest.map some) =
            .ok (Option.merge selector.lead (held.map Prod.fst) (selector.leader rest)) :=
        fun heldNumber => inductionHypothesis
          (fun other member => numbers other (List.mem_cons_of_mem entry member)) heldNumber
      rw [List.map_cons, pickFrom, leader]
      split
      · rename_i valid
        obtain ⟨goal, reads, goalRank⟩ := (numbers entry List.mem_cons_self valid).rank
        have taken : selector.pickFrom (some (entry, goal)) (rest.map some) =
            .ok (Option.merge selector.lead (some entry) (selector.leader rest)) := by
          refine later fun held present same => ?_
          cases same
          exact ⟨reads, goalRank⟩
        simp only [reads]
        cases best with
        | none => simpa using taken
        | some pair =>
            obtain ⟨held, heldGoal⟩ := pair
            obtain ⟨heldReads, heldRank⟩ := bestNumber held heldGoal rfl
            have kept : selector.pickFrom (some (held, heldGoal)) (rest.map some) =
                .ok (Option.merge selector.lead (some held) (selector.leader rest)) :=
              later bestNumber
            have regroup : Option.merge selector.lead (some held)
                (Option.merge selector.lead (some entry) (selector.leader rest)) =
                  Option.merge selector.lead (some (selector.lead held entry))
                    (selector.leader rest) :=
              ((Option.associative_merge selector.lead).assoc
                (some held) (some entry) (selector.leader rest)).symm
            simp only [Direction.prefers_of_rank goalRank heldRank, Option.map_some, regroup, lead]
            by_cases better : selector.direction.Better (selector.rank entry) (selector.rank held)
            · simp only [decide_eq_true better, if_pos better, taken]
            · simp only [decide_eq_false better, if_neg better, kept]
      · exact later bestNumber

theorem pick_of_hasNumber {selector : Selector α} {entries : List (Validated α)}
    (numbers : ∀ entry ∈ entries, entry.isValid = true → selector.HasNumber entry) :
    selector.pick (entries.map some) = .ok (selector.leader entries) := by
  unfold pick
  rw [pickFrom_of_hasNumber numbers fun held goal same => by cases same]
  exact congrArg Except.ok Option.merge_none_left

end Selector

end RandomSearch
