import Mathlib.Data.List.Forall2
import RandomSearch.Proofs.Pass
import RandomSearch.Proofs.Session

/-!
# Parallel searches as sequential ones

A parallel search of pure code does what sequential searches on the streams of its children do, one
for each worker.  How its tasks are carried out cannot be seen: neither the order in which they
start, nor how many run at a time, nor the turns in which they draw, ask and select.
-/

namespace RandomSearch

/-! ## Faults of a pass -/

/-- A fault that the caller's code has in some phase: one that names the phase and tells its cause,
or the demand to stop. -/
def Fault.IsOfPhase (worker : Option Int) (fault : Fault) : Prop :=
  fault.isInterrupt = true ∨
    ∃ phase cause, fault = .phaseFailed (.phase phase) worker (some cause)

namespace Action

variable {σ γ α β : Type}

/-- An action whose faults are those of phases. -/
def FailsInPhase (worker : Option Int) (action : Action σ α) : Prop :=
  ∀ before fault after, action before = .error fault after → fault.IsOfPhase worker

theorem failsInPhase_pure (worker : Option Int) (result : α) :
    (pure result : Action σ α).FailsInPhase worker := by
  intro before fault after failed
  cases failed

theorem failsInPhase_inPhase (phase : Phase) (worker : Option Int) (action : Action σ α) :
    (inPhase phase worker action).FailsInPhase worker := by
  intro before fault after failed
  unfold inPhase at failed
  cases ran : action before with
  | ok result last =>
      rw [ran] at failed
      cases failed
  | error cause last =>
      rw [ran] at failed
      cases failed
      by_cases interrupt : cause.isInterrupt = true
      · rw [if_pos interrupt]
        exact Or.inl interrupt
      · rw [if_neg interrupt]
        exact Or.inr ⟨phase, cause, rfl⟩

theorem FailsInPhase.bind {worker : Option Int} {action : Action σ α} {next : α → Action σ β}
    (fails : action.FailsInPhase worker) (nextFails : ∀ result, (next result).FailsInPhase worker) :
    (action >>= next).FailsInPhase worker := by
  intro before fault after failed
  rw [bind_apply] at failed
  cases ran : action before with
  | ok result middle =>
      rw [ran] at failed
      exact nextFails result middle fault after failed
  | error present middle =>
      rw [ran] at failed
      cases failed
      exact fails before fault after ran

theorem FailsInPhase.onSecond {worker : Option Int} {action : Action σ α}
    (fails : action.FailsInPhase worker) :
    (onSecond action : Action (γ × σ) α).FailsInPhase worker := by
  rintro ⟨first, before⟩ fault after failed
  unfold Action.onSecond at failed
  cases ran : action before with
  | ok result last =>
      simp only [ran] at failed
      cases failed
  | error present last =>
      simp only [ran] at failed
      cases failed
      exact fails before fault last ran

end Action

namespace Sampler

variable {σ α : Type}

theorem failsInPhase_pass (sampler : Sampler σ α) (samples : Nat) (worker : Option Int)
    (keep : Bool) : (sampler.pass (.int samples) worker keep).FailsInPhase worker := by
  have selects : ∀ batch, (sampler.best batch worker).FailsInPhase worker := by
    intro batch
    unfold best
    split
    · exact Action.failsInPhase_pure worker none
    · exact Action.failsInPhase_inPhase .selecting worker _
  rw [pass_eq]
  unfold draw
  rw [Value.toCount_natCast, Action.ofExcept_ok, pure_bind]
  refine (Action.failsInPhase_inPhase .generating worker _).bind fun candidates => ?_
  refine Action.FailsInPhase.onSecond ?_
  refine (Action.failsInPhase_inPhase .validating worker _).bind fun batch => ?_
  exact (selects _).bind fun found => Action.failsInPhase_pure worker _

/-! ## Sequential searches of children -/

/-- The sequential search on the stream of one child, with a history of its own. -/
def searchAlone (sampler : Sampler σ α) (samples : Nat) (session : Session σ α)
    (child : SeedSequence) : EStateM.Result Fault (Session σ α) (Option (Validated α)) :=
  sampler.search (.int samples)
    { session with stream := some (Generator.ofSequence child), history := some [] }

theorem searchAlone_eq (sampler : Sampler σ α) (samples : Nat) (session : Session σ α)
    (child : SeedSequence) :
    sampler.searchAlone samples session child =
      match sampler.pass (.int samples) none true
          (Generator.ofSequence child, session.surroundings) with
      | .ok outcome (moved, after) =>
          .ok outcome.best ⟨session.seed, some moved, some outcome.batch, after⟩
      | .error fault (moved, after) => .error fault ⟨session.seed, some moved, some [], after⟩ := by
  unfold searchAlone
  rw [search_apply]
  rfl

theorem outcome_workerTask (sampler : Sampler σ α) (samples : Value) (keep : Bool) (worker : Nat)
    (child : SeedSequence) (surroundings : σ) :
    (sampler.workerTask samples keep worker child).outcome surroundings =
      match sampler.pass samples none true (Generator.ofSequence child, surroundings) with
      | .ok outcome _ => .ok (outcome.forWorker worker keep)
      | .error fault _ => .error (fault.inWorker worker) := by
  unfold workerTask Action.outcome Action.withFirst
  rw [pass_asWorker]
  unfold Action.asWorker
  rw [Action.bind_apply]
  cases sampler.pass samples none true (Generator.ofSequence child, surroundings) with
  | ok outcome last => rfl
  | error fault last => rfl

/-- Where the sequential search of a child returns, the worker returns the same. -/
theorem outcome_workerTask_of_searchAlone {sampler : Sampler σ α} {samples : Nat}
    {session last : Session σ α} {child : SeedSequence} {best : Option (Validated α)}
    {batch : List (Validated α)}
    (returned : sampler.searchAlone samples session child = .ok best last)
    (kept : last.history = some batch) (keep : Bool) (worker : Nat) :
    (sampler.workerTask (.int samples) keep worker child).outcome session.surroundings =
      .ok ⟨some worker, best, if keep then batch else []⟩ := by
  rw [searchAlone_eq] at returned
  rw [outcome_workerTask]
  cases ran : sampler.pass (.int samples) none true
      (Generator.ofSequence child, session.surroundings) with
  | ok outcome after =>
      simp only [ran] at returned
      cases returned
      cases kept
      rfl
  | error fault after =>
      simp only [ran] at returned
      cases returned

theorem isOfPhase_of_searchAlone {sampler : Sampler σ α} {samples : Nat}
    {session last : Session σ α} {child : SeedSequence} {fault : Fault}
    (failed : sampler.searchAlone samples session child = .error fault last) :
    fault.IsOfPhase none := by
  rw [searchAlone_eq] at failed
  cases ran : sampler.pass (.int samples) none true
      (Generator.ofSequence child, session.surroundings) with
  | ok outcome after =>
      simp only [ran] at failed
      cases failed
  | error present after =>
      simp only [ran] at failed
      cases failed
      exact sampler.failsInPhase_pass samples none true _ fault after ran

/-- Where the sequential search of a child fails, the worker fails in the same phase from the same
cause, and nowhere else. -/
theorem outcome_workerTask_eq_error_iff {sampler : Sampler σ α} {samples : Nat}
    {session : Session σ α} {child : SeedSequence} {keep : Bool} {worker : Nat} {failure : Fault} :
    (sampler.workerTask (.int samples) keep worker child).outcome session.surroundings =
        .error failure ↔
      ∃ fault last, sampler.searchAlone samples session child = .error fault last ∧
        fault.IsOfPhase none ∧ failure = fault.inWorker worker := by
  have sameFaults : (sampler.workerTask (.int samples) keep worker child).outcome
      session.surroundings = .error failure ↔
        ∃ fault last, sampler.searchAlone samples session child = .error fault last ∧
          failure = fault.inWorker worker := by
    rw [searchAlone_eq, outcome_workerTask]
    cases sampler.pass (.int samples) none true
        (Generator.ofSequence child, session.surroundings) with
    | ok outcome after => simp
    | error fault after => simp [eq_comm]
  rw [sameFaults]
  constructor
  · rintro ⟨fault, last, failed, same⟩
    exact ⟨fault, last, failed, isOfPhase_of_searchAlone failed, same⟩
  · rintro ⟨fault, last, failed, _, same⟩
    exact ⟨fault, last, failed, same⟩

/-! ## Parallel searches -/

/-- A parallel search of pure code from an integer seed: what its workers give alone is collected,
whatever the dispatch. -/
theorem searchParallelOn_of_isPure {sampler : Sampler σ α} (pure : sampler.IsPure)
    {dispatch : Dispatch} {samples workers seed : Nat} (runs : dispatch.RunsAll workers)
    (positive : 0 < workers) {threads : Value} (allowed : checkThreads threads = .ok ())
    {session : Session σ α} (seeded : session.seed = .value (.int seed)) :
    sampler.searchParallelOn (.int samples) (.int workers) threads dispatch session =
      match Future.collect ((Executor.alone
          (sampler.workerTask (.int samples) session.history.isSome) session.surroundings
          ((SeedSequence.ofNat seed).spawn workers).1 0).map Future.ofResult) with
      | .error fault => .error fault session
      | .ok outcomes =>
          Session.inside (sampler.best ((outcomes.filterMap Outcome.best).map some) none)
            { session with
              history := session.history.map (· ++ outcomes.flatMap Outcome.batch) } := by
  obtain ⟨present, stream, history, surroundings⟩ := session
  subst seeded
  have runsAll : dispatch.RunsAll ((SeedSequence.ofNat seed).spawn workers).1.length := by
    rwa [SeedSequence.length_spawn]
  unfold searchParallelOn
  rw [sampler.searchParallelBy_of_accepted (acceptedWorkers_natCast samples workers allowed),
    if_neg (by omega), Seed.spawn_natCast]
  simp only [carryOut_of_isPure pure (.int samples) history.isSome runsAll surroundings]
  cases Future.collect ((Executor.alone (sampler.workerTask (.int samples) history.isSome)
      surroundings ((SeedSequence.ofNat seed).spawn workers).1 0).map Future.ofResult) with
  | ok outcomes => rfl
  | error fault => rfl

/-- If every child's sequential search returns, the outcomes of the workers are those of these
searches, in the order of the workers. -/
theorem collect_of_searchAlone {sampler : Sampler σ α} {samples : Nat} {session : Session σ α}
    {children : List SeedSequence}
    {found : List (Option (Validated α) × List (Validated α))}
    (returned : List.Forall₂ (fun child result =>
      ∃ last, sampler.searchAlone samples session child = .ok result.1 last ∧
        last.history = some result.2) children found) (keep : Bool) :
    ∃ outcomes,
      Future.collect ((Executor.alone (sampler.workerTask (.int samples) keep)
        session.surroundings children 0).map Future.ofResult) = .ok outcomes ∧
        outcomes.filterMap Outcome.best = found.filterMap Prod.fst ∧
          (keep = true → outcomes.flatMap Outcome.batch = (found.map Prod.snd).flatten) := by
  let shown : (Option (Validated α) × List (Validated α)) × Nat → Outcome α :=
    fun entry => ⟨some (entry.2 : Int), entry.1.1, if keep then entry.1.2 else []⟩
  have alone : Executor.alone (sampler.workerTask (.int samples) keep) session.surroundings
      children 0 = (found.zipIdx.map shown).map Except.ok := by
    apply List.ext_getElem?
    intro index
    rw [Executor.getElem?_alone, List.getElem?_map, List.getElem?_map, List.getElem?_zipIdx]
    rcases Nat.lt_or_ge index children.length with inside | outside
    · have insideFound : index < found.length := returned.length_eq ▸ inside
      obtain ⟨last, ran, kept⟩ := returned.get inside insideFound
      rw [List.getElem?_eq_getElem inside, List.getElem?_eq_getElem insideFound]
      simp only [Option.map_some, Nat.zero_add]
      exact congrArg some (outcome_workerTask_of_searchAlone ran kept keep index)
    · rw [List.getElem?_eq_none outside, List.getElem?_eq_none (returned.length_eq ▸ outside)]
      rfl
  refine ⟨found.zipIdx.map shown, ?_, ?_, ?_⟩
  · rw [alone]
    exact Future.collect_of_ok _
  · have bests : Outcome.best ∘ shown = Prod.fst ∘ Prod.fst := rfl
    rw [List.filterMap_map, bests, ← List.filterMap_map, List.zipIdx_map_fst]
  · intro kept
    have batches : Outcome.batch ∘ shown = Prod.snd ∘ Prod.fst := by
      funext entry
      simp only [shown, kept, Function.comp_apply, if_true]
    rw [List.flatMap_def, List.map_map, batches, ← List.map_map, List.zipIdx_map_fst]

/-- If some child's sequential search fails, the failures that are reported are those of these
searches, and the first of them is the cause. -/
theorem collect_of_searchAlone_error {sampler : Sampler σ α} {samples : Nat}
    {session : Session σ α} {children : List SeedSequence}
    (failed : ∃ child ∈ children, ∃ fault last,
      sampler.searchAlone samples session child = .error fault last) (keep : Bool) :
    ∃ failures cause,
      Future.collect ((Executor.alone (sampler.workerTask (.int samples) keep)
        session.surroundings children 0).map Future.ofResult) =
          .error (.workersFailed failures (some cause)) ∧
        failures.head?.map Prod.snd = some cause ∧
        failures.Pairwise (fun left right => left.1 < right.1) ∧
        ∀ position failure, (position, failure) ∈ failures ↔
          ∃ (index : Nat) (child : SeedSequence) (fault : Fault) (last : Session σ α),
            position = index ∧ children[index]? = some child ∧
              sampler.searchAlone samples session child = .error fault last ∧
                fault.IsOfPhase none ∧ failure = fault.inWorker index := by
  let results := Executor.alone (sampler.workerTask (.int samples) keep) session.surroundings
    children 0
  have members : ∀ position failure,
      (position, failure) ∈ Future.failuresOf results.zipIdx ↔
        ∃ (index : Nat) (child : SeedSequence) (fault : Fault) (last : Session σ α),
          position = index ∧ children[index]? = some child ∧
            sampler.searchAlone samples session child = .error fault last ∧
              fault.IsOfPhase none ∧ failure = fault.inWorker index := by
    intro position failure
    rw [Future.mem_failuresOf_zipIdx]
    simp only [results, Executor.getElem?_alone, Option.map_eq_some_iff,
      outcome_workerTask_eq_error_iff, Nat.zero_add]
    constructor
    · rintro ⟨index, ⟨child, found, fault, last, ran, place, same⟩, here⟩
      exact ⟨index, child, fault, last, here, found, ran, place, same⟩
    · rintro ⟨index, child, fault, last, here, found, ran, place, same⟩
      exact ⟨index, ⟨child, found, fault, last, ran, place, same⟩, here⟩
  obtain ⟨child, member, fault, last, ran⟩ := failed
  obtain ⟨index, found⟩ := List.mem_iff_getElem?.mp member
  have listed := (members index (fault.inWorker index)).mpr
    ⟨index, child, fault, last, rfl, found, ran, isOfPhase_of_searchAlone ran, rfl⟩
  cases failures : Future.failuresOf results.zipIdx with
  | nil =>
      rw [failures] at listed
      cases listed
  | cons first others =>
      have ascending := Future.pairwise_failuresOf_zipIdx results 0
      rw [failures] at ascending members
      exact ⟨first :: others, first.2, Future.collect_of_error failures, rfl, ascending, members⟩

/-- A parallel search of pure code is simulated by the sequential searches of its children, whatever
the dispatch.  If all of these return, their batches are added to the history one after the other,
and the winners are reduced in the order of the workers.  If some fail, exactly these failures are
reported, each with the number of its worker. -/
theorem searchParallelOn_simulated {sampler : Sampler σ α} (pure : sampler.IsPure)
    {dispatch : Dispatch} {samples workers seed : Nat} (runs : dispatch.RunsAll workers)
    (positive : 0 < workers) {threads : Value} (allowed : checkThreads threads = .ok ())
    {session : Session σ α} (seeded : session.seed = .value (.int seed)) :
    ∃ children,
      session.seed.spawn workers = .ok (children, session.seed) ∧ children.length = workers ∧
        (∀ found : List (Option (Validated α) × List (Validated α)),
          List.Forall₂ (fun child result =>
            ∃ last, sampler.searchAlone samples session child = .ok result.1 last ∧
              last.history = some result.2) children found →
          sampler.searchParallelOn (.int samples) (.int workers) threads dispatch session =
            Session.inside (sampler.best ((found.filterMap Prod.fst).map some) none)
              { session with
                history := session.history.map (· ++ (found.map Prod.snd).flatten) }) ∧
        ((∃ child ∈ children, ∃ fault last,
            sampler.searchAlone samples session child = .error fault last) →
          ∃ failures cause,
            sampler.searchParallelOn (.int samples) (.int workers) threads dispatch session =
                .error (.workersFailed failures (some cause)) session ∧
              failures.head?.map Prod.snd = some cause ∧
              failures.Pairwise (fun left right => left.1 < right.1) ∧
              ∀ position failure, (position, failure) ∈ failures ↔
                ∃ (index : Nat) (child : SeedSequence) (fault : Fault) (last : Session σ α),
                  position = index ∧ children[index]? = some child ∧
                    sampler.searchAlone samples session child = .error fault last ∧
                      fault.IsOfPhase none ∧ failure = fault.inWorker index) := by
  refine ⟨((SeedSequence.ofNat seed).spawn workers).1, ?_, SeedSequence.length_spawn _ _, ?_, ?_⟩
  · rw [seeded, Seed.spawn_natCast]
  · intro found returned
    obtain ⟨outcomes, collected, bests, batches⟩ :=
      collect_of_searchAlone returned session.history.isSome
    rw [searchParallelOn_of_isPure pure runs positive allowed seeded, collected]
    simp only [bests]
    cases kept : session.history with
    | none => rfl
    | some earlier =>
        have same := batches (by rw [kept]; rfl)
        simp only [Option.map_some, same]
  · intro failed
    obtain ⟨failures, cause, collected, head, ascending, members⟩ :=
      collect_of_searchAlone_error failed session.history.isSome
    refine ⟨failures, cause, ?_, head, ascending, members⟩
    rw [searchParallelOn_of_isPure pure runs positive allowed seeded, collected]

theorem isPure_sums : sums.IsPure where
  draw := Action.keepsSecond_onFirst (Action.step (Generator.drawBox [0, -4] [9, 4]))
  predicate constraint member candidate := by
    cases List.mem_singleton.mp member
    exact Action.keeps_pure _
  select _ := Action.keeps_ofExcept _

/-- Two workers in turns draw and find what their children draw and find alone. -/
theorem searchParallelOn_simulated_sums :
    let session : Session Unit (List Int) := ⟨.value (.int 7), none, some [], ()⟩
    ∃ children found,
      session.seed.spawn 2 = .ok (children, session.seed) ∧
      List.Forall₂ (fun child result =>
        ∃ last, sums.searchAlone 2 session child = .ok result.1 last ∧
          last.history = some result.2) children found ∧
      found.map (fun result => result.2.map Validated.candidate) =
        [[[3, 3], [2, -4]], [[6, 0], [3, -4]]] ∧
      sums.searchParallelOn (.int 2) (.int 2) .null (.inTurns [1, 0, 1, 1, 0, 1]) session =
        Session.inside (sums.best ((found.filterMap Prod.fst).map some) none)
          { session with history := some (found.map Prod.snd).flatten } := by
  intro session
  obtain ⟨children, spawned, length, all, _⟩ := @searchParallelOn_simulated Unit (List Int) _
    isPure_sums (.inTurns [1, 0, 1, 1, 0, 1]) 2 2 7 trivial (by decide) .null rfl session rfl
  have root : (session.seed.spawn (2 : Nat)) = _ := Seed.spawn_natCast 7 2
  cases root.symm.trans spawned
  have alone : ∀ (number : Nat) (winner : Option (List Int)) (drawn : List (List Int)),
      Session.seen (sums.searchAlone 2 session ((SeedSequence.ofNat 7).child number)) =
          some (winner, some drawn) →
        ∃ best batch, batch.map Validated.candidate = drawn ∧
          ∃ last, sums.searchAlone 2 session ((SeedSequence.ofNat 7).child number) = .ok best last ∧
            last.history = some batch := by
    intro number winner drawn saw
    obtain ⟨best, last, ran, _, kept⟩ := Session.of_seen_eq_some saw
    obtain ⟨batch, history, same⟩ := Option.map_eq_some_iff.mp kept
    exact ⟨best, batch, same, last, ran, history⟩
  obtain ⟨firstBest, firstBatch, firstDrawn, first⟩ :=
    alone 0 (some [3, 3]) [[3, 3], [2, -4]] (by decide +kernel)
  obtain ⟨secondBest, secondBatch, secondDrawn, second⟩ :=
    alone 1 (some [6, 0]) [[6, 0], [3, -4]] (by decide +kernel)
  let found := [(firstBest, firstBatch), (secondBest, secondBatch)]
  have drawn : found.map (fun result => result.2.map Validated.candidate) =
      [[[3, 3], [2, -4]], [[6, 0], [3, -4]]] := by
    rw [List.map_cons, List.map_singleton, firstDrawn, secondDrawn]
  exact ⟨_, found, spawned, .cons first (.cons second .nil), drawn,
    all found (.cons first (.cons second .nil))⟩

end Sampler

end RandomSearch
