import RandomSearch.Proofs.Simulation

/-!
# Searches that return

A parallel search of pure code returns exactly if the passes of its workers do, as long as one can
select from what these select.  If no draw fails, no question about a drawn candidate fails and no
selection from judged candidates fails, then it always returns.  It adds one entry to the history
for every draw, and what holds of all judged candidates holds of all these entries.
-/

namespace RandomSearch

namespace Sampler

variable {σ α : Type}

/-- Nothing that a search does can fail: draws give candidates of one kind, and judging these gives
entries of one kind, from which one can be selected. -/
structure Serves (sampler : Sampler σ α) (Drawn : α → Prop) (Entry : Validated α → Prop) :
    Prop where
  draw : sampler.problem.draw.Yields Drawn
  validate : ∀ candidate, Drawn candidate →
    (Constraint.validate sampler.constraints candidate).Yields Entry
  select : ∀ batch : List (Validated α), (∀ entry ∈ batch, Entry entry) →
    (sampler.problem.select (batch.map some)).Yields fun best => ∀ entry, best = some entry →
      Entry entry

namespace Serves

variable {sampler : Sampler σ α} {Drawn : α → Prop} {Entry : Validated α → Prop}

theorem best (serves : sampler.Serves Drawn Entry) {batch : List (Validated α)}
    (entries : ∀ entry ∈ batch, Entry entry) (worker : Option Int) :
    (sampler.best (batch.map some) worker).Yields fun best => ∀ entry, best = some entry →
      Entry entry := by
  unfold Sampler.best
  split
  · exact Action.yields_pure fun entry same => by cases same
  · exact (serves.select batch entries).inPhase .selecting worker

/-- A worker that keeps its batch shows one entry for every sample. -/
theorem workerTask (serves : sampler.Serves Drawn Entry) (samples worker : Nat)
    (seed : SeedSequence) :
    (sampler.workerTask (.int samples) true worker seed).Yields fun outcome =>
      outcome.batch.length = samples ∧ (∀ entry ∈ outcome.batch, Entry entry) ∧
        ∀ entry, outcome.best = some entry → Entry entry := by
  have draws : (sampler.draw (.int samples) (some worker)).Yields fun candidates =>
      candidates.length = samples ∧ ∀ candidate ∈ candidates, Drawn candidate := by
    unfold Sampler.draw
    rw [Value.toCount_natCast, Action.ofExcept_ok, pure_bind]
    exact (serves.draw.repeated samples).inPhase .generating (some (worker : Int))
  refine (draws.bind ?_).withFirst (Generator.ofSequence seed)
  rintro candidates ⟨count, drawn⟩
  have judges := Action.Yields.each serves.validate drawn
  rw [count] at judges
  refine (judges.inPhase .validating (some (worker : Int))).onSecond.bind ?_
  rintro batch ⟨size, entries⟩
  refine (serves.best entries (some worker)).onSecond.bind fun best bestEntry => ?_
  exact Action.yields_pure ⟨size, entries, bestEntry⟩

end Serves

/-- A parallel search of pure code that cannot fail returns, and adds one entry to the history for
every draw. -/
theorem exists_searchParallelOn_eq_ok {sampler : Sampler σ α} (pure : sampler.IsPure)
    {Drawn : α → Prop} {Entry : Validated α → Prop} (serves : sampler.Serves Drawn Entry)
    {dispatch : Dispatch} {samples workers seed : Nat} (runs : dispatch.RunsAll workers)
    {threads : Value} (allowed : checkThreads threads = .ok ()) {session : Session σ α}
    (seeded : session.seed = .value (.int seed)) {earlier : List (Validated α)}
    (kept : session.history = some earlier) :
    ∃ winner appended,
      sampler.searchParallelOn (.int samples) (.int workers) threads dispatch session =
        .ok winner { session with history := some (earlier ++ appended) } ∧
        appended.length = samples * workers ∧ ∀ entry ∈ appended, Entry entry := by
  rcases Nat.eq_zero_or_pos workers with rfl | positive
  · refine ⟨none, [], ?_, rfl, fun entry member => by cases member⟩
    have ran := sampler.searchParallelBy_of_accepted (acceptedWorkers_natCast samples 0 allowed)
      (sampler.carryOut dispatch (.int samples)) session
    rw [if_pos rfl] at ran
    rw [List.append_nil, ← kept]
    exact ran
  · have ran := @searchParallelOn_of_isPure _ _ _ pure _ samples _ _ runs positive _ allowed _
      seeded
    obtain ⟨outcomes, alone, count, shown⟩ := Executor.exists_alone_eq_ok
      (serves.workerTask samples) session.surroundings ((SeedSequence.ofNat seed).spawn workers).1 0
    rw [SeedSequence.length_spawn] at count
    rw [kept, Option.isSome_some, alone, Future.collect_of_ok] at ran
    have winners : ∀ entry ∈ outcomes.filterMap Outcome.best, Entry entry := by
      intro entry member
      obtain ⟨outcome, present, found⟩ := List.mem_filterMap.mp member
      exact (shown outcome present).2.2 entry found
    obtain ⟨winner, after, selected, _⟩ := serves.best winners none session.surroundings
    have unchanged := (pure.best _ none).eq_of_eq_ok selected
    refine ⟨winner, outcomes.flatMap Outcome.batch, ?_, ?_, ?_⟩
    · rw [ran]
      simp only [Session.inside, selected, unchanged, Option.map_some]
    · rw [List.length_flatMap, List.map_congr_left fun outcome present => (shown outcome present).1,
        List.map_const', List.sum_replicate_nat, count, Nat.mul_comm]
    · intro entry member
      obtain ⟨outcome, present, found⟩ := List.mem_flatMap.mp member
      exact (shown outcome present).2.1 entry found

/-! ## Searches that return -/

/-- If every item of a list is related to something, the list is. -/
theorem exists_forall₂ {ι β : Type} {Related : ι → β → Prop} {items : List ι}
    (each : ∀ item ∈ items, ∃ other, Related item other) :
    ∃ others, List.Forall₂ Related items others := by
  induction items with
  | nil => exact ⟨[], .nil⟩
  | cons item rest inductionHypothesis =>
      obtain ⟨⟨other, related⟩, restEach⟩ := List.forall_mem_cons.mp each
      obtain ⟨others, allRelated⟩ := inductionHypothesis restEach
      exact ⟨other :: others, .cons related allRelated⟩

section

variable {sampler : Sampler σ α} {samples workers seed : Nat} {session : Session σ α}
  {dispatch : Dispatch} {threads : Value}

theorem exists_searchAlone {Winner : Validated α → Prop} {child : SeedSequence}
    (selects : ∀ outcome last,
      sampler.pass (.int samples) none true (Generator.ofSequence child, session.surroundings) =
        .ok outcome last → ∀ entry, outcome.best = some entry → Winner entry)
    (succeeds : (sampler.pass (.int samples) none true).Succeeds
      (Generator.ofSequence child, session.surroundings)) :
    ∃ found : Option (Validated α) × List (Validated α),
      (∃ last, sampler.searchAlone samples session child = .ok found.1 last ∧
        last.history = some found.2) ∧ ∀ entry, found.1 = some entry → Winner entry := by
  obtain ⟨outcome, ⟨moved, after⟩, returned⟩ := succeeds
  refine ⟨(outcome.best, outcome.batch),
    ⟨⟨session.seed, some moved, some outcome.batch, after⟩, ?_, rfl⟩,
    selects outcome _ returned⟩
  rw [searchAlone_eq, returned]

/-- A parallel search of pure code returns if the passes of all its workers do and one can select
from what these select. -/
theorem succeeds_searchParallelOn_of_passes {Winner : Validated α → Prop} (pure : sampler.IsPure)
    (selects : ∀ child outcome last,
      sampler.pass (.int samples) none true (Generator.ofSequence child, session.surroundings) =
        .ok outcome last → ∀ entry, outcome.best = some entry → Winner entry)
    (reduces : ∀ winners : List (Validated α), (∀ entry ∈ winners, Winner entry) →
      (sampler.best (winners.map some) none).Succeeds session.surroundings)
    (runs : dispatch.RunsAll workers) (positive : 0 < workers)
    (allowed : checkThreads threads = .ok ()) (seeded : session.seed = .value (.int seed))
    (passes : ∀ child ∈ ((SeedSequence.ofNat seed).spawn workers).1,
      (sampler.pass (.int samples) none true).Succeeds
        (Generator.ofSequence child, session.surroundings)) :
    (sampler.searchParallelOn (.int samples) (.int workers) threads dispatch).Succeeds session := by
  obtain ⟨found, related⟩ := exists_forall₂ fun child member =>
    exists_searchAlone (selects child) (passes child member)
  obtain ⟨outcomes, collected, bests, _⟩ :=
    collect_of_searchAlone (related.imp fun _ _ both => both.1) session.history.isSome
  have winners : ∀ entry ∈ found.filterMap Prod.fst, Winner entry := by
    intro entry member
    obtain ⟨result, present, same⟩ := List.mem_filterMap.mp member
    obtain ⟨position, inside, rfl⟩ := List.mem_iff_getElem.mp present
    exact (related.get (related.length_eq ▸ inside) inside).2 entry same
  obtain ⟨winner, after, selected⟩ := reduces _ winners
  have ran := @searchParallelOn_of_isPure _ _ _ pure _ samples _ _ runs positive _ allowed _ seeded
  rw [collected] at ran
  simp only [bests, Session.inside, selected] at ran
  exact ⟨_, _, ran⟩

/-- If the pass of some worker does not return, a parallel search of pure code fails because of its
workers, and the session is what it was. -/
theorem searchParallelOn_of_pass_fails (pure : sampler.IsPure) (runs : dispatch.RunsAll workers)
    (positive : 0 < workers) (allowed : checkThreads threads = .ok ())
    (seeded : session.seed = .value (.int seed))
    (fails : ∃ child ∈ ((SeedSequence.ofNat seed).spawn workers).1,
      ¬ (sampler.pass (.int samples) none true).Succeeds
        (Generator.ofSequence child, session.surroundings)) :
    ∃ fault,
      sampler.searchParallelOn (.int samples) (.int workers) threads dispatch session =
        .error fault session ∧ fault.kind = .parallelSearchError := by
  obtain ⟨child, member, stuck⟩ := fails
  obtain ⟨fault, ⟨moved, after⟩, failed⟩ := Action.exists_eq_error_of_not_succeeds stuck
  have alone : sampler.searchAlone samples session child =
      .error fault ⟨session.seed, some moved, some [], after⟩ := by
    rw [searchAlone_eq, failed]
  obtain ⟨failures, cause, collected, _⟩ :=
    collect_of_searchAlone_error ⟨child, member, fault, _, alone⟩ session.history.isSome
  refine ⟨.workersFailed failures (some cause), ?_, rfl⟩
  rw [searchParallelOn_of_isPure pure runs positive allowed seeded, collected]

/-- A parallel search of pure code returns exactly if the passes of all its workers return, provided
that one can select from what these select.  If it fails, workers have failed, and the session is
what it was. -/
theorem succeeds_searchParallelOn_iff {Winner : Validated α → Prop} (pure : sampler.IsPure)
    (selects : ∀ child outcome last,
      sampler.pass (.int samples) none true (Generator.ofSequence child, session.surroundings) =
        .ok outcome last → ∀ entry, outcome.best = some entry → Winner entry)
    (reduces : ∀ winners : List (Validated α), (∀ entry ∈ winners, Winner entry) →
      (sampler.best (winners.map some) none).Succeeds session.surroundings)
    (runs : dispatch.RunsAll workers) (positive : 0 < workers)
    (allowed : checkThreads threads = .ok ()) (seeded : session.seed = .value (.int seed)) :
    ((sampler.searchParallelOn (.int samples) (.int workers) threads dispatch).Succeeds session ↔
      ∀ child ∈ ((SeedSequence.ofNat seed).spawn workers).1,
        (sampler.pass (.int samples) none true).Succeeds
          (Generator.ofSequence child, session.surroundings)) ∧
    ∀ fault last,
      sampler.searchParallelOn (.int samples) (.int workers) threads dispatch session =
        .error fault last → fault.kind = .parallelSearchError ∧ last = session := by
  by_cases passes : ∀ child ∈ ((SeedSequence.ofNat seed).spawn workers).1,
      (sampler.pass (.int samples) none true).Succeeds
        (Generator.ofSequence child, session.surroundings)
  · have succeeds : (sampler.searchParallelOn (.int samples) (.int workers) threads
        dispatch).Succeeds session :=
      succeeds_searchParallelOn_of_passes pure selects reduces runs positive allowed seeded passes
    refine ⟨iff_of_true succeeds passes, fun fault last failed => ?_⟩
    obtain ⟨_, _, returned⟩ := succeeds
    cases returned.symm.trans failed
  · obtain ⟨present, ran, kind⟩ := searchParallelOn_of_pass_fails pure runs positive allowed seeded
      (by simpa only [not_forall, exists_prop] using passes)
    refine ⟨iff_of_false ?_ passes, fun fault last failed => ?_⟩
    · rintro ⟨_, _, returned⟩
      cases ran.symm.trans returned
    · cases ran.symm.trans failed
      exact ⟨kind, rfl⟩

end

end Sampler

end RandomSearch
