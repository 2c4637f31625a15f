import RandomSearch.Proofs.Undefined

/-!
# Batches with gaps

A batch may have missing entries and entries that are not valid, anywhere.  What is selected depends
on the other entries alone, in their order: it is one that no other is better than, and where no
goal is undefined, the first of these.  In another order an entry with an equal goal is selected.
-/

namespace RandomSearch.Selector

variable {α : Type} {selector : Selector α} {batch shuffled : List (Option (Validated α))}
  {entry left right winner other : Validated α} {earlier later : List (Validated α)}

/-! ## Entries that count -/

/-- The entries of a batch that are there and valid, in their order. -/
def eligible (batch : List (Option (Validated α))) : List (Validated α) :=
  batch.filterMap fun item => item.filter Validated.isValid

theorem mem_eligible_iff : entry ∈ eligible batch ↔ some entry ∈ batch ∧ entry.isValid = true := by
  unfold eligible
  rw [List.mem_filterMap]
  constructor
  · rintro ⟨item, member, counts⟩
    obtain ⟨rfl, valid⟩ := Option.filter_eq_some_iff.mp counts
    exact ⟨member, valid⟩
  · rintro ⟨member, valid⟩
    exact ⟨some entry, member, Option.filter_eq_some_iff.mpr ⟨rfl, valid⟩⟩

theorem eligible_eq_nil_iff :
    eligible batch = [] ↔ ∀ entry, some entry ∈ batch → entry.isValid = false := by
  rw [List.eq_nil_iff_forall_not_mem]
  refine forall_congr' fun entry => ?_
  rw [mem_eligible_iff, not_and, Bool.not_eq_true]

/-- An entry that counts stands in the batch behind the entries that count before it. -/
theorem exists_append_of_eligible (split : eligible batch = earlier ++ entry :: later) :
    ∃ front back, batch = front ++ some entry :: back ∧ eligible front = earlier := by
  obtain ⟨front, rest, rfl, same, others⟩ := List.filterMap_eq_append_iff.mp split
  obtain ⟨skipped, item, back, rfl, uncounted, counts, _⟩ := List.filterMap_eq_cons_iff.mp others
  obtain ⟨rfl, _⟩ := Option.filter_eq_some_iff.mp counts
  refine ⟨front ++ skipped, back, by rw [List.append_assoc], ?_⟩
  unfold eligible
  rw [List.filterMap_append, same, List.filterMap_eq_nil_iff.mpr uncounted, List.append_nil]

/-- A selection goes by the entries that count. -/
theorem pickFrom_eligible (selector : Selector α) (best : Option (Validated α × Value))
    (batch : List (Option (Validated α))) :
    selector.pickFrom best batch = selector.pickFrom best ((eligible batch).map some) := by
  induction batch generalizing best with
  | nil => rfl
  | cons item rest inductionHypothesis =>
      cases item with
      | none => exact inductionHypothesis best
      | some entry =>
          cases valid : entry.isValid with
          | false =>
              have skipped : eligible (some entry :: rest) = eligible rest :=
                List.filterMap_cons_none (by rw [Option.filter_some_neg]; simp [valid])
              rw [pickFrom_of_not_isValid selector best valid, skipped]
              exact inductionHypothesis best
          | true =>
              have counted : eligible (some entry :: rest) = entry :: eligible rest :=
                List.filterMap_cons_some (by rw [Option.filter_some_pos valid])
              rw [counted, List.map_cons]
              unfold pickFrom
              simp only [inductionHypothesis]

theorem pick_eligible (selector : Selector α) (batch : List (Option (Validated α))) :
    selector.pick batch = selector.pick ((eligible batch).map some) :=
  selector.pickFrom_eligible none batch

/-! ## Equal goals -/

/-- Whether the goals of two entries are equal. -/
def Ties (selector : Selector α) (left right : Validated α) : Prop :=
  ∃ goal opposed, selector.goal left.candidate = .ok goal ∧
    selector.goal right.candidate = .ok opposed ∧ goal.equals opposed = true

theorem ties_iff (leftNumber : selector.HasNumber left) (rightNumber : selector.HasNumber right) :
    selector.Ties left right ↔ selector.rank left = selector.rank right := by
  obtain ⟨goal, goalReads, goalRank⟩ := leftNumber.rank
  obtain ⟨opposed, opposedReads, opposedRank⟩ := rightNumber.rank
  have compared := Value.compare_of_rank .eq goalRank opposedRank
  have equal : goal.equals opposed = decide (selector.rank left = selector.rank right) :=
    Except.ok.inj compared
  constructor
  · rintro ⟨_, _, again, opposedAgain, same⟩
    cases goalReads.symm.trans again
    cases opposedReads.symm.trans opposedAgain
    exact of_decide_eq_true (equal.symm.trans same)
  · intro same
    exact ⟨goal, opposed, goalReads, opposedReads, equal.trans (decide_eq_true same)⟩

/-- Two entries neither of which beats the other have equal goals. -/
theorem ties_of_not_beats (leftNumber : selector.HasNumber left)
    (rightNumber : selector.HasNumber right) (notBetter : ¬ selector.Beats left right)
    (notWorse : ¬ selector.Beats right left) : selector.Ties left right := by
  rw [beats_iff leftNumber rightNumber] at notBetter
  rw [beats_iff rightNumber leftNumber] at notWorse
  rw [ties_iff leftNumber rightNumber]
  unfold Direction.Better at notBetter notWorse
  cases direction : selector.direction with
  | maximise =>
      rw [direction] at notBetter notWorse
      exact le_antisymm (not_lt.mp notBetter) (not_lt.mp notWorse)
  | minimise =>
      rw [direction] at notBetter notWorse
      exact le_antisymm (not_lt.mp notWorse) (not_lt.mp notBetter)

/-! ## What is selected -/

/-- No entry of a batch that counts is better than the given one. -/
def IsUnbeatenIn (selector : Selector α) (batch : List (Option (Validated α)))
    (winner : Validated α) : Prop :=
  ∀ entry, some entry ∈ batch → entry.isValid = true → ¬ selector.Beats entry winner

/-- An entry stands in a batch behind none that counts but such as are strictly worse. -/
def LeadsIn (selector : Selector α) (batch : List (Option (Validated α)))
    (winner : Validated α) : Prop :=
  ∃ front back, batch = front ++ some winner :: back ∧
    ∀ entry, some entry ∈ front → entry.isValid = true → selector.Beats winner entry

theorem IsFirstBest.leadsIn {position : Nat}
    (first : selector.IsFirstBest (eligible batch) position winner) :
    selector.LeadsIn batch winner := by
  obtain ⟨inside, here⟩ := List.getElem?_eq_some_iff.mp first.found
  have split : eligible batch =
      (eligible batch).take position ++ winner :: (eligible batch).drop (position + 1) := by
    rw [← here, List.getElem_cons_drop, List.take_append_drop]
  obtain ⟨front, back, same, counted⟩ := exists_append_of_eligible split
  refine ⟨front, back, same, fun entry member valid => ?_⟩
  have before : entry ∈ (eligible batch).take position :=
    counted ▸ mem_eligible_iff.mpr ⟨member, valid⟩
  obtain ⟨place, isBefore, found⟩ := List.mem_take_iff_getElem.mp before
  exact first.beats place (by omega) entry (List.getElem?_eq_some_iff.mpr ⟨by omega, found⟩) valid

/-- Where the goals of all entries that count are numbers, one that no other is better than is
selected, if there are any. -/
theorem exists_isUnbeatenIn_of_pick
    (numeric : ∀ entry, some entry ∈ batch → entry.isValid = true → selector.IsNumeric entry) :
    ∃ best, selector.pick batch = .ok best ∧
      (best = none ↔ ∀ entry, some entry ∈ batch → entry.isValid = false) ∧
        ∀ winner, best = some winner →
          some winner ∈ batch ∧ winner.isValid = true ∧ selector.IsUnbeatenIn batch winner := by
  have counted : ∀ entry ∈ eligible batch, entry.isValid = true → selector.IsNumeric entry :=
    fun entry member _ => (mem_eligible_iff.mp member).elim (numeric entry)
  rw [pick_eligible]
  cases found : (eligible batch).find? Validated.isValid with
  | none =>
      have nothing : eligible batch = [] := by
        rw [List.eq_nil_iff_forall_not_mem]
        intro entry member
        exact List.find?_eq_none.mp found entry member (mem_eligible_iff.mp member).2
      refine ⟨none, pick_of_find?_eq_none found, ?_, fun winner same => by cases same⟩
      exact iff_of_true rfl (eligible_eq_nil_iff.mp nothing)
  | some first =>
      obtain ⟨winner, picked, settles⟩ := exists_settles_of_pick counted found
      obtain ⟨present, valid⟩ := pick_mem selector picked
      obtain ⟨_, inBatch, same⟩ := List.mem_map.mp present
      cases same
      obtain ⟨member, _⟩ := mem_eligible_iff.mp inBatch
      refine ⟨some winner, picked, ?_, fun best same => ?_⟩
      · refine iff_of_false (fun same => by cases same) fun noneValid => ?_
        rw [noneValid winner member] at valid
        cases valid
      · cases same
        refine ⟨member, valid, fun entry present entryValid => ?_⟩
        rw [beats_iff_of_isNumeric (numeric entry present entryValid) settles.isNumeric]
        exact settles.unbeaten entry (mem_eligible_iff.mpr ⟨present, entryValid⟩) entryValid

/-- Where no goal of an entry that counts is undefined, the first of the best entries is
selected. -/
theorem leadsIn_of_pick
    (numbers : ∀ entry, some entry ∈ batch → entry.isValid = true → selector.HasNumber entry)
    (picked : selector.pick batch = .ok (some winner)) : selector.LeadsIn batch winner := by
  have counted : ∀ entry ∈ eligible batch, entry.isValid = true → selector.HasNumber entry :=
    fun entry member _ => (mem_eligible_iff.mp member).elim (numbers entry)
  rw [pick_eligible, pick_of_hasNumber counted] at picked
  obtain ⟨_, first⟩ := exists_isFirstBest_of_leader counted (Except.ok.inj picked)
  exact first.leadsIn

theorem HasNumber.isNumeric (number : selector.HasNumber entry) : selector.IsNumeric entry := by
  obtain ⟨goal, value, reads, isNumber, _⟩ := number
  exact ⟨goal, value, reads, isNumber⟩

/-- Where no goal of an entry that counts is undefined, a batch with the same entries in another
order has a winner with an equal goal. -/
theorem exists_pick_of_perm
    (numbers : ∀ entry, some entry ∈ batch → entry.isValid = true → selector.HasNumber entry)
    (picked : selector.pick batch = .ok (some winner)) (permuted : shuffled.Perm batch) :
    ∃ other, selector.pick shuffled = .ok (some other) ∧ some other ∈ batch ∧
      other.isValid = true ∧ selector.Ties other winner := by
  have numeric := fun entry member valid => (numbers entry member valid).isNumeric
  obtain ⟨best, found, _, bestIs⟩ := exists_isUnbeatenIn_of_pick numeric
  cases picked.symm.trans found
  obtain ⟨member, valid, unbeaten⟩ := bestIs winner rfl
  have shuffledNumeric : ∀ entry, some entry ∈ shuffled → entry.isValid = true →
      selector.IsNumeric entry :=
    fun entry present => numeric entry (permuted.mem_iff.mp present)
  obtain ⟨best, found, isNone, bestIs⟩ := exists_isUnbeatenIn_of_pick shuffledNumeric
  cases best with
  | none =>
      have notValid := isNone.mp rfl winner (permuted.mem_iff.mpr member)
      rw [valid] at notValid
      cases notValid
  | some other =>
      obtain ⟨otherMember, otherValid, otherUnbeaten⟩ := bestIs other rfl
      have inBatch := permuted.mem_iff.mp otherMember
      refine ⟨other, found, inBatch, otherValid, ?_⟩
      exact ties_of_not_beats (numbers other inBatch otherValid) (numbers winner member valid)
        (unbeaten other inBatch otherValid)
        (otherUnbeaten winner (permuted.mem_iff.mpr member) valid)

/-- A selection from a batch in which the goals of all valid entries are numbers finds nothing
exactly if no entry is valid, and otherwise a valid entry of the batch that no valid one is better
than.  If moreover no such goal is undefined, it is the first of these entries, in any other order
an entry with an equal goal is found, and the same one if no other has that goal.  Entries that are
missing or not valid make no difference wherever they stand. -/
theorem exists_pick_of_isNumeric
    (numeric : ∀ entry, some entry ∈ batch → entry.isValid = true → selector.IsNumeric entry) :
    ∃ best, selector.pick batch = .ok best ∧
      (best = none ↔ ∀ entry, some entry ∈ batch → entry.isValid = false) ∧
      (∀ winner, best = some winner →
        some winner ∈ batch ∧ winner.isValid = true ∧ selector.IsUnbeatenIn batch winner) ∧
      ((∀ entry, some entry ∈ batch → entry.isValid = true → selector.HasNumber entry) →
        ∀ winner, best = some winner → selector.LeadsIn batch winner ∧
          ∀ shuffled : List (Option (Validated α)), shuffled.Perm batch →
            ∃ other, selector.pick shuffled = .ok (some other) ∧ selector.Ties other winner ∧
              ((∀ entry, some entry ∈ batch → entry.isValid = true →
                selector.Ties entry winner → entry = winner) → other = winner)) ∧
      ∀ gapped : List (Option (Validated α)), eligible gapped = eligible batch →
        selector.pick gapped = .ok best := by
  obtain ⟨best, picked, isNone, isBest⟩ := exists_isUnbeatenIn_of_pick numeric
  refine ⟨best, picked, isNone, isBest, fun numbers winner same => ?_, fun gapped same => ?_⟩
  · subst same
    refine ⟨leadsIn_of_pick numbers picked, fun shuffled permuted => ?_⟩
    obtain ⟨other, found, member, valid, ties⟩ := exists_pick_of_perm numbers picked permuted
    exact ⟨other, found, ties, fun only => only other member valid ties⟩
  · rw [pick_eligible, same, ← pick_eligible, picked]

/-- A batch in which the best goal stands behind a missing entry, behind one that is not valid and
would be better, and behind a valid one that is worse, and once more at the end. -/
def gaps : List (Option (Validated Record)) :=
  [none, some ⟨Sampler.ofGoal 9, [.bool false]⟩, some ⟨Sampler.ofGoal 0, []⟩,
    some ⟨Sampler.ofGoal 7, [.bool true]⟩, some ⟨Sampler.ofGoal 7, []⟩]

theorem hasNumber_of_mem_gaps {entry : Validated Record} (member : some entry ∈ gaps) :
    usual.HasNumber entry := by
  have ofGoal : ∃ goal, entry.candidate = Sampler.ofGoal goal := by
    simp only [gaps, List.mem_cons, List.not_mem_nil, or_false, Option.some.injEq] at member
    rcases member with absent | rfl | rfl | rfl | rfl
    · cases absent
    · exact ⟨9, rfl⟩
    · exact ⟨0, rfl⟩
    · exact ⟨7, rfl⟩
    · exact ⟨7, rfl⟩
  obtain ⟨goal, same⟩ := ofGoal
  unfold HasNumber
  rw [same]
  exact ⟨.int goal, .int goal, rfl, rfl, fun undefined => by cases undefined⟩

theorem exists_pick_of_isNumeric_gaps :
    let winner : Validated Record := ⟨Sampler.ofGoal 7, [.bool true]⟩
    usual.pick gaps = .ok (some winner) ∧ usual.IsUnbeatenIn gaps winner ∧
      usual.LeadsIn gaps winner ∧
        (∃ other, usual.pick gaps.reverse = .ok (some other) ∧ usual.Ties other winner) ∧
          usual.pick gaps.tail = .ok (some winner) := by
  intro winner
  have numbers := fun entry (member : some entry ∈ gaps) (_ : entry.isValid = true) =>
    hasNumber_of_mem_gaps member
  obtain ⟨best, picked, _, isBest, isFirst, gapped⟩ :=
    exists_pick_of_isNumeric fun entry member valid => (numbers entry member valid).isNumeric
  have found : usual.pick gaps = .ok (some winner) := rfl
  cases found.symm.trans picked
  obtain ⟨leads, permuted⟩ := isFirst numbers winner rfl
  obtain ⟨other, reversed, ties, _⟩ := permuted gaps.reverse (List.reverse_perm gaps)
  exact ⟨found, (isBest winner rfl).2.2, leads, ⟨other, reversed, ties⟩, gapped gaps.tail rfl⟩

end RandomSearch.Selector
