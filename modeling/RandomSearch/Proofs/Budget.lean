import RandomSearch.Proofs.Failures
import RandomSearch.Proofs.Reduction
import RandomSearch.Proofs.Rounds
import RandomSearch.Proofs.Simulation
import RandomSearch.Proofs.Streams

/-!
# Larger searches

Two parallel searches of pure code from the same integer differ only in how many workers they have
and how many samples each of these draws.  The workers of the smaller search are workers of the
larger one, and what they draw is what these draw first.  So the larger search finds nothing worse.
-/

namespace RandomSearch

variable {σ ι α β : Type}

/-! ## Collected results -/

namespace Future

/-- If a task has returned, then what it gives alone. -/
def Fits (given : Except Fault β) (future : Future β) : Prop :=
  ∀ result, future = .returned result → given = .ok result

theorem fits_ofResult (given : Except Fault β) : Fits given (ofResult given) := by
  intro result same
  cases given with
  | ok value =>
      cases same
      rfl
  | error fault => cases same

theorem eq_map_ok_of_fits {given : List (Except Fault β)} {results : List β}
    (fits : List.Forall₂ Fits given (results.map .returned)) : given = results.map .ok := by
  induction results generalizing given with
  | nil =>
      cases fits
      rfl
  | cons result rest inductionHypothesis =>
      cases fits with
      | cons first later =>
          rw [List.map_cons, first result rfl, inductionHypothesis later]

end Future

namespace Executor

variable {task : Nat → ι → Action σ β}

theorem fits_of_submitFrom {executor : Executor}
    (keeps : ∀ position item, (task position item).Keeps) {items : List ι} {position : Nat}
    {before after : σ} {futures : List (Future β)}
    (submitted : executor.submitFrom task position items before = .ok ⟨futures, none⟩ after) :
    List.Forall₂ Future.Fits (alone task before items position) futures := by
  induction items generalizing position futures after with
  | nil =>
      cases submitted
      exact List.Forall₂.nil
  | cons item rest inductionHypothesis =>
      have same : after = before :=
        (executor.keeps_submitFrom keeps (item :: rest) position).eq_of_eq_ok submitted
      subst same
      -- What follows the first task sees the same surroundings, whatever this has come to.
      have proceeds : ∀ {first : Future β}, Future.Fits ((task position item).outcome after) first →
          (do
            let others ← submitFrom executor task (position + 1) rest
            return { others with futures := first :: others.futures } :
              Action σ (Submission β)) after = .ok ⟨futures, none⟩ after →
          List.Forall₂ Future.Fits (alone task after (item :: rest) position) futures := by
        intro first fits ran
        obtain ⟨⟨others, refusal⟩, last, later, result⟩ := Action.bind_eq_ok_iff.mp ran
        cases result
        exact List.Forall₂.cons fits (inductionHypothesis later)
      unfold submitFrom at submitted
      split at submitted
      · obtain ⟨result, middle, attempted, later⟩ := Action.bind_eq_ok_iff.mp submitted
        rw [Action.attempt_apply, keeps position item after] at attempted
        cases attempted
        exact proceeds (Future.fits_ofResult _) later
      · exact proceeds (fun _ same => by cases same) submitted
      · exact proceeds (fun _ same => by cases same) submitted
      · exact proceeds (fun _ same => by cases same) submitted
      · cases submitted

theorem fits_of_finish {action : Action σ β} (keeps : action.Keeps) {before after : σ}
    {future settled : Future β} (fits : Future.Fits (action.outcome before) future)
    (finished : finish action future before = .ok settled after) :
    Future.Fits (action.outcome before) settled ∧ after = before := by
  cases future with
  | waiting =>
      obtain ⟨result, middle, attempted, same⟩ := Action.bind_eq_ok_iff.mp finished
      rw [Action.attempt_apply, keeps before] at attempted
      cases attempted
      cases same
      exact ⟨Future.fits_ofResult _, rfl⟩
  | returned result =>
      cases finished
      exact ⟨fits, rfl⟩
  | failed fault =>
      cases finished
      exact ⟨fits, rfl⟩
  | cancelled =>
      cases finished
      exact ⟨fits, rfl⟩

theorem fits_of_finishFrom (keeps : ∀ position item, (task position item).Keeps) {items : List ι}
    {position : Nat} {before after : σ} {futures settled : List (Future β)}
    (fits : List.Forall₂ Future.Fits (alone task before items position) futures)
    (finished : finishFrom task position items futures before = .ok settled after) :
    List.Forall₂ Future.Fits (alone task before items position) settled := by
  induction items generalizing position futures settled after with
  | nil =>
      cases finished
      exact List.Forall₂.nil
  | cons item rest inductionHypothesis =>
      cases fits with
      | cons firstFits restFit =>
          obtain ⟨head, middle, headFinished, later⟩ := Action.bind_eq_ok_iff.mp finished
          obtain ⟨tail, last, tailFinished, same⟩ := Action.bind_eq_ok_iff.mp later
          cases same
          obtain ⟨headFits, unchanged⟩ :=
            fits_of_finish (keeps position item) firstFits headFinished
          rw [unchanged] at tailFinished
          exact List.Forall₂.cons headFits (inductionHypothesis restFit tailFinished)

/-- If the results of tasks are collected that leave their surroundings as they are, these are what
each task gives alone, whatever the executor. -/
theorem alone_of_runAll_eq_ok {executor : Executor}
    (keeps : ∀ position item, (task position item).Keeps) {items : List ι} {before after : σ}
    {results : List β} (ran : executor.runAll task items before = .ok results after) :
    alone task before items 0 = results.map .ok := by
  obtain ⟨⟨submitted, refusal⟩, middle, accepted, waited⟩ := Action.bind_eq_ok_iff.mp ran
  cases refusal with
  | some fault => cases waited
  | none =>
      have fits := fits_of_submitFrom keeps accepted
      have same := (executor.keeps_submitFrom keeps items 0).eq_of_eq_ok accepted
      subst same
      obtain ⟨futures, last, finished, collects⟩ := Action.bind_eq_ok_iff.mp waited
      have settledFit := fits_of_finishFrom keeps fits finished
      have count : submitted.length = items.length := by
        rw [← fits.length_eq, alone, List.length_map, List.length_zipIdx]
      obtain ⟨_, _, again, _, settled⟩ : ∃ settled last,
          finishFrom task 0 items submitted middle = .ok settled last ∧
            settled.length = items.length ∧ ∀ future ∈ settled, future.isSettled = true :=
        exists_finishFrom_eq_ok count 0 middle
      cases finished.symm.trans again
      have collected := (Action.ofExcept_eq_ok_iff.mp collects).1
      have returned := ((Future.collect_of_isSettled settled).1 results).mp collected
      rw [returned] at settledFit
      exact Future.eq_map_ok_of_fits settledFit

end Executor

namespace Sampler

variable {sampler : Sampler σ α}

/-- If the outcomes of the workers are collected, these are what each worker shows alone, however
their tasks are carried out. -/
theorem alone_of_carryOut_eq_ok (pure : sampler.IsPure) {dispatch : Dispatch} {samples : Value}
    {keep : Bool} {children : List SeedSequence} {before after : σ} {outcomes : List (Outcome α)}
    (carried : sampler.carryOut dispatch samples keep children before = .ok outcomes after) :
    Executor.alone (sampler.workerTask samples keep) before children 0 = outcomes.map .ok := by
  cases dispatch with
  | whole executor =>
      exact Executor.alone_of_runAll_eq_ok (pure.workerTask samples keep) carried
  | inTurns turns =>
      have runs : (Dispatch.inTurns turns).RunsAll children.length := trivial
      rw [carryOut_of_isPure pure samples keep runs before] at carried
      have collected := (Action.ofExcept_eq_ok_iff.mp carried).1
      have settled : ∀ future ∈ (Executor.alone (sampler.workerTask samples keep) before children
          0).map Future.ofResult, future.isSettled = true := by
        intro future member
        obtain ⟨result, _, rfl⟩ := List.mem_map.mp member
        exact Future.isSettled_ofResult result
      have returned := ((Future.collect_of_isSettled settled).1 outcomes).mp collected
      apply Future.eq_map_ok_of_fits
      rw [← returned, List.forall₂_map_right_iff]
      exact List.forall₂_same.mpr fun result _ => Future.fits_ofResult result

/-! ## Longer batches -/

/-- What a worker has drawn and judged that shows its batch. -/
theorem exists_of_workerTask (pure : sampler.IsPure) {samples worker : Nat}
    {child : SeedSequence} {surroundings : σ} {outcome : Outcome α}
    (shown : (sampler.workerTask (.int samples) true worker child).outcome surroundings =
      .ok outcome) :
    ∃ candidates moved,
      Action.each (fun _ => sampler.problem.draw) (List.replicate samples ())
          (Generator.ofSequence child, surroundings) = .ok candidates (moved, surroundings) ∧
        Action.each (Constraint.validate sampler.constraints) candidates surroundings =
          .ok outcome.batch surroundings := by
  obtain ⟨last, ran⟩ := Action.outcome_eq_ok_iff.mp shown
  obtain ⟨_, passed⟩ := Action.withFirst_eq_ok_iff.mp ran
  obtain ⟨candidates, ⟨moved, middle⟩, drawn, rest⟩ := Action.bind_eq_ok_iff.mp passed
  have same : middle = surroundings := (pure.draws _ _).eq_of_eq_ok drawn
  subst same
  obtain ⟨validated, _, judging, selecting⟩ := Action.bind_eq_ok_iff.mp rest
  obtain ⟨judged, validates, rfl⟩ := Action.onSecond_eq_ok_iff.mp judging
  have judges := Action.inPhase_eq_ok_iff.mp validates
  have same := (Action.Keeps.eachFrom pure.validates candidates []).eq_of_eq_ok judges
  subst same
  obtain ⟨best, _, _, result⟩ := Action.bind_eq_ok_iff.mp selecting
  cases result
  refine ⟨candidates, moved, ?_, judges⟩
  rw [← Action.repeated_eq_each]
  unfold draw at drawn
  rw [Value.toCount_natCast, Action.ofExcept_ok, pure_bind] at drawn
  exact Action.inPhase_eq_ok_iff.mp drawn

/-- A worker that is to draw more draws the same first, and judges it alike. -/
theorem batch_prefix (pure : sampler.IsPure) {samples moreSamples worker : Nat}
    (fewer : samples ≤ moreSamples) {child : SeedSequence} {surroundings : σ}
    {outcome more : Outcome α}
    (shown : (sampler.workerTask (.int samples) true worker child).outcome surroundings =
      .ok outcome)
    (moreShown : (sampler.workerTask (.int moreSamples) true worker child).outcome surroundings =
      .ok more) :
    outcome.batch <+: more.batch := by
  obtain ⟨candidates, moved, drawn, judged⟩ := exists_of_workerTask pure shown
  obtain ⟨moreCandidates, moreMoved, moreDrawn, moreJudged⟩ := exists_of_workerTask pure moreShown
  obtain ⟨further, rfl⟩ := Nat.exists_eq_add_of_le fewer
  rw [← List.replicate_append_replicate] at moreDrawn
  obtain ⟨_, _, others, drawnFirst, _, rfl⟩ := Action.each_append_eq_ok_iff.mp moreDrawn
  cases drawn.symm.trans drawnFirst
  obtain ⟨_, _, rest, judgedFirst, _, same⟩ := Action.each_append_eq_ok_iff.mp moreJudged
  cases judged.symm.trans judgedFirst
  exact ⟨rest, same.symm⟩

/-! ## Accounts of searches -/

/-- What a worker shows that keeps its batch is what it shows otherwise, but for the batch. -/
theorem exists_kept {samples : Value} {keep : Bool} {children : List SeedSequence}
    {position : Nat} {surroundings : σ} {outcomes : List (Outcome α)}
    (alone : Executor.alone (sampler.workerTask samples keep) surroundings children position =
      outcomes.map .ok) :
    ∃ kept : List (Outcome α),
      Executor.alone (sampler.workerTask samples true) surroundings children position =
          kept.map .ok ∧
        kept.map Outcome.best = outcomes.map Outcome.best ∧ (keep = true → kept = outcomes) := by
  induction children generalizing position outcomes with
  | nil =>
      cases outcomes with
      | nil => exact ⟨[], rfl, rfl, fun _ => rfl⟩
      | cons outcome rest => cases alone
  | cons child later inductionHypothesis =>
      cases outcomes with
      | nil => cases alone
      | cons outcome rest =>
          obtain ⟨first, others⟩ := List.cons.inj alone
          obtain ⟨kept, keptAlone, bests, same⟩ := inductionHypothesis others
          simp only [outcome_workerTask] at first
          cases ran : sampler.pass samples none true
              (Generator.ofSequence child, surroundings) with
          | error fault last =>
              rw [ran] at first
              cases first
          | ok passed last =>
              rw [ran] at first
              cases first
              refine ⟨passed.forWorker position true :: kept, ?_, ?_, ?_⟩
              · have shows : (sampler.workerTask samples true position child).outcome surroundings =
                    .ok (passed.forWorker position true) := by
                  rw [outcome_workerTask, ran]
                rw [List.map_cons, ← shows, ← keptAlone]
                rfl
              · exact congrArg (passed.best :: ·) bests
              · intro keeps
                rw [same keeps, keeps]

/-- An account of a parallel search that has returned: the children that its workers were given, and
what each worker shows of its batch. -/
structure IsAccount (sampler : Sampler σ α) (samples workers : Nat) (before after : Session σ α)
    (winner : Option (Validated α)) (children : List SeedSequence) (shown : List (Outcome α)) :
    Prop where
  length_eq : children.length = workers
  spawned : 0 < workers → before.seed.spawn workers = .ok (children, before.seed)
  /-- Every worker shows what it shows alone. -/
  alone : Executor.alone (sampler.workerTask (.int samples) true) before.surroundings children 0 =
    shown.map .ok
  /-- The batches are added to the history, if there is one. -/
  history : ∀ earlier, before.history = some earlier →
    after.history = some (earlier ++ shown.flatMap Outcome.batch)
  chosen : sampler.selectWinner shown before.surroundings = .ok winner before.surroundings

/-- There is an account of every parallel search of pure code from an integer that has returned. -/
theorem exists_isAccount (pure : sampler.IsPure) {dispatch : Dispatch} {samples workers : Nat}
    {threads : Value} {seed : Int} {before after : Session σ α} {winner : Option (Validated α)}
    (seeded : before.seed = .value (.int seed))
    (returned : sampler.searchParallelOn (.int samples) (.int workers) threads dispatch before =
      .ok winner after) :
    ∃ children shown, sampler.IsAccount samples workers before after winner children shown := by
  rcases of_searchParallelBy_eq_ok returned with ⟨counts, rfl, rfl⟩ | ran
  · have none : workers = 0 := Except.ok.inj counts
    subst none
    refine ⟨[], [], rfl, fun positive => absurd positive (Nat.lt_irrefl 0), rfl, ?_, rfl⟩
    intro earlier kept
    rw [kept, List.flatMap_nil, List.append_nil]
  · obtain ⟨count, children, later, outcomes, middle, last, counts, spawned, carried, selected,
      history⟩ := ran
    have same : workers = count := Except.ok.inj counts
    subst same
    have unchanged := (pure.carryOut dispatch (.int samples) _ children).eq_of_eq_ok carried
    subst unchanged
    have settled := (pure.best _ none).eq_of_eq_ok selected
    rw [settled] at selected
    obtain ⟨kept, alone, bests, keeps⟩ := exists_kept (alone_of_carryOut_eq_ok pure carried)
    obtain ⟨_, _, _, laterOf⟩ := Seed.exists_of_spawn spawned
    refine ⟨children, kept, ?_, fun _ => ?_, alone, ?_, ?_⟩
    · exact Seed.length_of_spawn spawned
    · rw [spawned, laterOf, seeded]
      rfl
    · intro earlier present
      rw [history, present, keeps (by rw [present]; rfl)]
      rfl
    · have winners : kept.filterMap Outcome.best = outcomes.filterMap Outcome.best := by
        have same := congrArg (List.filterMap id) bests
        rwa [List.filterMap_map, List.filterMap_map] at same
      unfold selectWinner
      rw [winners]
      exact selected

namespace IsAccount

variable {samples moreSamples workers moreWorkers : Nat}
  {before after moreBefore moreAfter : Session σ α} {winner moreWinner : Option (Validated α)}
  {children moreChildren : List SeedSequence} {shown moreShown : List (Outcome α)}

theorem length_shown
    (account : sampler.IsAccount samples workers before after winner children shown) :
    shown.length = workers := by
  have lengths := congrArg List.length account.alone
  rw [Executor.alone, List.length_map, List.length_zipIdx, List.length_map] at lengths
  rw [← lengths]
  exact account.length_eq

/-- Every worker shows what its task comes to with its child. -/
theorem outcome_workerTask
    (account : sampler.IsAccount samples workers before after winner children shown)
    {worker : Nat} {child : SeedSequence} {outcome : Outcome α}
    (given : children[worker]? = some child) (shows : shown[worker]? = some outcome) :
    (sampler.workerTask (.int samples) true worker child).outcome before.surroundings =
      .ok outcome := by
  have found := congrArg (fun results => results[worker]?) account.alone
  simp only [Executor.getElem?_alone, given, Option.map_some, List.getElem?_map, shows] at found
  exact Option.some.inj found

theorem isSelected {selector : Selector α} (selects : sampler.SelectsWith selector)
    (account : sampler.IsAccount samples workers before after winner children shown) :
    ∀ outcome ∈ shown, outcome.IsSelected selector := by
  intro outcome member
  obtain ⟨worker, shows⟩ := List.mem_iff_getElem?.mp member
  have inside : worker < children.length := by
    rw [account.length_eq, ← account.length_shown]
    exact (List.getElem?_eq_some_iff.mp shows).1
  have ran := account.outcome_workerTask (List.getElem?_eq_getElem inside) shows
  obtain ⟨last, returned⟩ := Action.outcome_eq_ok_iff.mp ran
  exact (selectionsShow_isSelected selects).workerTask returned

theorem eq_leader {selector : Selector α} (selects : sampler.SelectsWith selector)
    (account : sampler.IsAccount samples workers before after winner children shown)
    (numbers : ∀ entry ∈ shown.flatMap Outcome.batch, entry.isValid = true →
      selector.HasNumber entry) :
    winner = selector.leader (shown.flatMap Outcome.batch) :=
  Outcome.eq_leader_of_pick (account.isSelected selects) numbers
    (pick_of_best selects account.chosen)

/-- The workers of the smaller search are given the first children of the larger one. -/
theorem children_prefix
    (account : sampler.IsAccount samples workers before after winner children shown)
    (moreAccount : sampler.IsAccount moreSamples moreWorkers moreBefore moreAfter moreWinner
      moreChildren moreShown)
    (fewer : workers ≤ moreWorkers) (sameSeed : moreBefore.seed = before.seed) :
    children <+: moreChildren := by
  by_cases noWorkers : workers = 0
  · have none : children = [] := List.eq_nil_of_length_eq_zero (account.length_eq.trans noWorkers)
    rw [none]
    exact List.nil_prefix
  · have spawned := account.spawned (Nat.pos_of_ne_zero noWorkers)
    have moreSpawned := moreAccount.spawned (by omega)
    rw [sameSeed] at moreSpawned
    obtain ⟨sequence, made, rfl, _⟩ := Seed.exists_of_spawn spawned
    obtain ⟨_, again, rfl, _⟩ := Seed.exists_of_spawn moreSpawned
    cases made.symm.trans again
    obtain ⟨further, rfl⟩ := Nat.exists_eq_add_of_le fewer
    rw [SeedSequence.childrenFrom_add]
    exact List.prefix_append _ _

theorem exists_batch_prefix (pure : sampler.IsPure)
    (account : sampler.IsAccount samples workers before after winner children shown)
    (moreAccount : sampler.IsAccount moreSamples moreWorkers moreBefore moreAfter moreWinner
      moreChildren moreShown)
    (fewerSamples : samples ≤ moreSamples) (fewerWorkers : workers ≤ moreWorkers)
    (sameChildren : children <+: moreChildren)
    (sameSurroundings : moreBefore.surroundings = before.surroundings) {worker : Nat}
    (inside : worker < workers) :
    ∃ outcome more, shown[worker]? = some outcome ∧ moreShown[worker]? = some more ∧
      outcome.batch <+: more.batch := by
  have insideShown : worker < shown.length := by
    rw [account.length_shown]
    exact inside
  have insideMore : worker < moreShown.length := by
    rw [moreAccount.length_shown]
    omega
  have insideChildren : worker < children.length := by
    rw [account.length_eq]
    exact inside
  have shows := List.getElem?_eq_getElem insideShown
  have moreShows := List.getElem?_eq_getElem insideMore
  have given := List.getElem?_eq_getElem insideChildren
  have moreGiven : moreChildren[worker]? = some children[worker] := by
    obtain ⟨further, rfl⟩ := sameChildren
    rw [List.getElem?_append_left insideChildren]
    exact given
  refine ⟨_, _, shows, moreShows, ?_⟩
  have ran := account.outcome_workerTask given shows
  have moreRan := moreAccount.outcome_workerTask moreGiven moreShows
  rw [sameSurroundings] at moreRan
  exact batch_prefix pure fewerSamples ran moreRan

end IsAccount

/-- A larger search of pure code from the same integer finds nothing worse.  Its workers include
those of the smaller search, and what these draw and judge there, they draw and judge first here.
If all goals are numbers that are not undefined, and the smaller search finds an entry, then the
larger one finds an entry that is not beaten by it. -/
theorem larger_finds_no_worse {sampler : Sampler σ α} (pure : sampler.IsPure)
    {selector : Selector α} (selects : sampler.SelectsWith selector)
    {samples moreSamples workers moreWorkers : Nat} (fewerSamples : samples ≤ moreSamples)
    (fewerWorkers : workers ≤ moreWorkers) {threads moreThreads : Value}
    {dispatch moreDispatch : Dispatch} {seed : Int}
    {before after moreBefore moreAfter : Session σ α} {winner moreWinner : Option (Validated α)}
    (seeded : before.seed = .value (.int seed))
    (moreSeeded : moreBefore.seed = .value (.int seed))
    (sameSurroundings : moreBefore.surroundings = before.surroundings)
    (returned : sampler.searchParallelOn (.int samples) (.int workers) threads dispatch before =
      .ok winner after)
    (moreReturned : sampler.searchParallelOn (.int moreSamples) (.int moreWorkers) moreThreads
      moreDispatch moreBefore = .ok moreWinner moreAfter) :
    ∃ children moreChildren shown moreShown,
      sampler.IsAccount samples workers before after winner children shown ∧
        sampler.IsAccount moreSamples moreWorkers moreBefore moreAfter moreWinner moreChildren
          moreShown ∧
        children <+: moreChildren ∧
        (∀ worker < workers, ∃ outcome more, shown[worker]? = some outcome ∧
          moreShown[worker]? = some more ∧ outcome.batch <+: more.batch) ∧
        ((∀ entry ∈ moreShown.flatMap Outcome.batch, entry.isValid = true →
            selector.HasNumber entry) →
          ∀ best, winner = some best →
            ∃ moreBest, moreWinner = some moreBest ∧ ¬ selector.Beats best moreBest) := by
  obtain ⟨children, shown, account⟩ := exists_isAccount pure seeded returned
  obtain ⟨moreChildren, moreShown, moreAccount⟩ := exists_isAccount pure moreSeeded moreReturned
  have sameChildren := account.children_prefix moreAccount fewerWorkers
    (moreSeeded.trans seeded.symm)
  have prefixes := fun worker (inside : worker < workers) => account.exists_batch_prefix pure
    moreAccount fewerSamples fewerWorkers sameChildren sameSurroundings inside
  refine ⟨children, moreChildren, shown, moreShown, account, moreAccount, sameChildren, prefixes,
    ?_⟩
  intro numbers best found
  have contained : ∀ entry ∈ shown.flatMap Outcome.batch,
      entry ∈ moreShown.flatMap Outcome.batch := by
    intro entry member
    obtain ⟨outcome, present, inBatch⟩ := List.mem_flatMap.mp member
    obtain ⟨worker, shows⟩ := List.mem_iff_getElem?.mp present
    have inside : worker < workers := by
      rw [← account.length_shown]
      exact (List.getElem?_eq_some_iff.mp shows).1
    obtain ⟨_, more, again, moreShows, batches⟩ := prefixes worker inside
    cases shows.symm.trans again
    exact List.mem_flatMap.mpr ⟨more, List.mem_of_getElem? moreShows, batches.subset inBatch⟩
  have leads := account.eq_leader selects fun entry member =>
    numbers entry (contained entry member)
  have moreLeads := moreAccount.eq_leader selects numbers
  obtain ⟨member, valid⟩ := Selector.mem_of_leader (leads.symm.trans found)
  cases moreFound : moreWinner with
  | none =>
      have noneValid := Selector.leader_eq_none_iff.mp (moreLeads.symm.trans moreFound)
      have notValid := noneValid best (contained best member)
      rw [valid] at notValid
      cases notValid
  | some moreBest =>
      obtain ⟨position, first⟩ :=
        Selector.exists_isFirstBest_of_leader numbers (moreLeads.symm.trans moreFound)
      exact ⟨moreBest, rfl, first.unbeaten best (contained best member) valid⟩

/-- A second worker and a second sample each: the first worker draws the same point first, and the
point that is found is another one with a larger sum. -/
theorem larger_finds_no_worse_sums :
    let before : Session Unit (List Int) := ⟨.value (.int 1), none, some [], ()⟩
    let found (samples workers : Nat) (dispatch : Dispatch) :=
      sums.searchParallelOn (.int samples) (.int workers) .null dispatch before
    ∃ after moreAfter best moreBest,
      found 1 1 (.whole .threads) = .ok (some best) after ∧
        found 2 2 (.inTurns [1, 0, 1]) = .ok (some moreBest) moreAfter ∧
        after.history.map (fun batch => batch.map Validated.candidate) = some [[0, 2]] ∧
        moreAfter.history.map (fun batch => batch.map Validated.candidate) =
          some [[0, 2], [8, -3], [9, 0], [1, 1]] ∧
        best.candidate = [0, 2] ∧ moreBest.candidate = [8, -3] ∧
          ¬ largestSum.Beats best moreBest := by
  intro before found
  obtain ⟨winner, after, returned, drawn, kept⟩ := Session.of_seen_eq_some
    (show Session.seen (found 1 1 (.whole .threads)) = some (some [0, 2], some [[0, 2]]) by
      decide +kernel)
  obtain ⟨moreWinner, moreAfter, moreReturned, moreDrawn, moreKept⟩ := Session.of_seen_eq_some
    (show Session.seen (found 2 2 (.inTurns [1, 0, 1])) =
      some (some [8, -3], some [[0, 2], [8, -3], [9, 0], [1, 1]]) by decide +kernel)
  obtain ⟨best, rfl, point⟩ := Option.map_eq_some_iff.mp drawn
  obtain ⟨_, _, _, _, _, _, _, _, noWorse⟩ := larger_finds_no_worse isPure_sums
    selectsWith_largestSum (by decide) (by decide) rfl rfl rfl returned moreReturned
  obtain ⟨moreBest, rfl, notBeaten⟩ :=
    noWorse (fun entry _ _ => hasNumber_largestSum entry) best rfl
  exact ⟨after, moreAfter, best, moreBest, returned, moreReturned, kept, moreKept, point,
    Option.some.inj moreDrawn, notBeaten⟩

end Sampler

end RandomSearch
