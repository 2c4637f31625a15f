import RandomSearch.Proofs.Action
import RandomSearch.Sampler

/-!
# What searches do to a session

A sequential search comes down to one pass.  A parallel search comes down to taking seeds, carrying
out the tasks of the workers, and one last selection.  The history changes only in between, when all
workers have returned.
-/

namespace RandomSearch

theorem Value.toCount_natCast (label : String) (count : Nat) :
    (Value.int count).toCount label = .ok count :=
  rfl

/-! ## Seeds -/

/-- The sequence of an integer that is not negative. -/
def SeedSequence.ofNat (n : Nat) : SeedSequence :=
  ⟨.int n, wordsOf n, [], 0⟩

theorem SeedSequence.ofEntropy_natCast (n : Nat) :
    SeedSequence.ofEntropy (.int n) [] = .ok (.ofNat n) := by
  have words : entropyWords (.int n) = .ok (wordsOf n) := by
    unfold entropyWords
    rfl
  simp only [SeedSequence.ofEntropy, words]
  rfl

/-- An integer seed gives the same children whenever it is asked. -/
theorem Seed.spawn_natCast (n count : Nat) :
    (Seed.value (.int n)).spawn count =
      .ok (((SeedSequence.ofNat n).spawn count).1, .value (.int n)) := by
  unfold Seed.spawn
  rw [if_neg (by omega)]
  simp only [Seed.toSequence, SeedSequence.ofEntropy_natCast]
  rfl

theorem Seed.spawn_root (sequence : SeedSequence) (count : Nat) :
    (Seed.root sequence).spawn count =
      .ok ((sequence.spawn count).1, .root (sequence.spawn count).2) := by
  unfold spawn
  rw [if_neg (by omega)]
  rfl

/-! ## Accepted workers -/

/-- The number of workers of a parallel search, if what it is given is in order. -/
def acceptedWorkers (samples workers threads : Value) : Except Fault Nat := do
  let _ ← samples.toCount "samples per worker"
  let count ← workers.toCount "worker count"
  checkThreads threads
  return count

theorem acceptedWorkers_natCast (samples workers : Nat) {threads : Value}
    (allowed : checkThreads threads = .ok ()) :
    acceptedWorkers (.int samples) (.int workers) threads = .ok workers := by
  unfold acceptedWorkers
  rw [Value.toCount_natCast, Value.toCount_natCast, allowed]
  rfl

theorem toCount_of_acceptedWorkers {samples workers threads : Value} {count : Nat}
    (accepts : acceptedWorkers samples workers threads = .ok count) :
    workers.toCount "worker count" = .ok count := by
  obtain ⟨_, _, rest⟩ := except_bind_eq_ok_iff.mp accepts
  obtain ⟨number, counts, checked⟩ := except_bind_eq_ok_iff.mp rest
  obtain ⟨_, _, same⟩ := except_bind_eq_ok_iff.mp checked
  cases same
  exact counts

namespace Session

variable {σ α β γ : Type}

theorem inside_eq_ok_iff {action : Action σ β} {session last : Session σ α} {result : β} :
    inside action session = .ok result last ↔
      ∃ after, action session.surroundings = .ok result after ∧
        last = { session with surroundings := after } := by
  unfold inside
  cases action session.surroundings with
  | ok value after =>
      constructor
      · intro same
        cases same
        exact ⟨after, rfl, rfl⟩
      · rintro ⟨_, ⟨rfl, rfl⟩, rfl⟩
        rfl
  | error fault after => simp

theorem inside_eq_error_iff {action : Action σ β} {session last : Session σ α} {fault : Fault} :
    inside action session = .error fault last ↔
      ∃ after, action session.surroundings = .error fault after ∧
        last = { session with surroundings := after } := by
  unfold inside
  cases action session.surroundings with
  | ok value after => simp
  | error present after =>
      constructor
      · intro same
        cases same
        exact ⟨after, rfl, rfl⟩
      · rintro ⟨_, ⟨rfl, rfl⟩, rfl⟩
        rfl

theorem takeSeeds_eq_ok_iff {count : Nat} {session last : Session σ α}
    {seeds : List SeedSequence} :
    takeSeeds count session = .ok seeds last ↔
      ∃ later, session.seed.spawn count = .ok (seeds, later) ∧
        last = { session with seed := later } := by
  unfold takeSeeds
  cases session.seed.spawn count with
  | error fault => simp
  | ok spawned =>
      obtain ⟨children, later⟩ := spawned
      constructor
      · intro same
        cases same
        exact ⟨later, rfl, rfl⟩
      · rintro ⟨_, ⟨rfl, rfl⟩, rfl⟩
        rfl

/-! ## What stays as it is -/

theorem inside_preserves {part : Session σ α → γ} {action : Action σ β}
    (preserves : ∀ session : Session σ α,
      part { session with surroundings := action.after session.surroundings } = part session) :
    (inside action : Action (Session σ α) β).Preserves part := by
  intro session
  have same := preserves session
  unfold Action.after at same
  unfold Action.after inside
  cases ran : action session.surroundings with
  | ok result after =>
      rw [ran] at same
      exact same
  | error fault after =>
      rw [ran] at same
      exact same

/-- A search on a stream preserves what depends neither on the stream nor on what the search does to
the surroundings. -/
theorem streaming_preserves {part : Session σ α → γ} {action : Action (Generator × σ) β}
    (preserves : ∀ (session : Session σ α) (generator : Generator) (stream : Option Generator),
      part { session with
        stream := stream
        surroundings := (action.after (generator, session.surroundings)).2 } = part session) :
    (streaming action : Action (Session σ α) β).Preserves part := by
  intro session
  cases present : session.stream with
  | some generator =>
      have same := preserves session generator
      unfold Action.after at same
      unfold Action.after streaming
      rw [present]
      simp only
      cases ran : action (generator, session.surroundings) with
      | ok result last =>
          rw [ran] at same
          exact same (some last.1)
      | error fault last =>
          rw [ran] at same
          exact same (some last.1)
  | none =>
      unfold Action.after streaming
      rw [present]
      simp only
      cases session.seed.generator with
      | error fault => rfl
      | ok generator =>
          have preservesAlone : ∀ current : Session σ α,
              part { current with
                surroundings := (Action.withFirst generator action).after current.surroundings } =
              part current := by
            intro current
            rw [Action.after_withFirst]
            exact preserves current generator current.stream
          exact inside_preserves preservesAlone session

/-! ## Gathering what workers show -/

/-- What a parallel search does before it adds the batches of its workers to the history: it checks
what it was given, and lets the workers come to their outcomes, if there are to be any. -/
def gather (samples workers threads : Value)
    (carryOut : Bool → List SeedSequence → Action σ (List (Outcome α))) :
    Action (Session σ α) (Option (List (Outcome α))) := do
  let count ← Action.ofExcept (acceptedWorkers samples workers threads)
  if count = 0 then
    return none
  let seeds ← takeSeeds count
  let keep ← hasHistory
  let outcomes ← inside (carryOut keep seeds)
  return some outcomes

theorem keeps_hasHistory : (hasHistory : Action (Session σ α) Bool).Keeps :=
  fun _ => rfl

/-- Outcomes are gathered without a change to any part of the session that is no part of the seed
and that the workers leave alone. -/
theorem gather_preserves {part : Session σ α → β} {samples workers threads : Value}
    {carryOut : Bool → List SeedSequence → Action σ (List (Outcome α))}
    (seedless : ∀ session seed, part { session with seed := seed } = part session)
    (preserves : ∀ keep children,
      (inside (carryOut keep children) : Action (Session σ α) _).Preserves part) :
    (gather samples workers threads carryOut).Preserves part := by
  have checks : (Action.ofExcept (acceptedWorkers samples workers threads) :
      Action (Session σ α) Nat).Preserves part := (Action.keeps_ofExcept _).preserves part
  have takes : ∀ count, (takeSeeds count : Action (Session σ α) _).Preserves part := by
    intro count session
    unfold Action.after takeSeeds
    cases session.seed.spawn count with
    | error fault => rfl
    | ok spawned => exact seedless session spawned.2
  apply checks.bind
  intro count
  by_cases noWorkers : count = 0
  · rw [if_pos noWorkers]
    exact (Action.keeps_pure none).preserves part
  · rw [if_neg noWorkers]
    apply (takes count).bind
    intro children
    apply (keeps_hasHistory.preserves part).bind
    intro keep
    apply (preserves keep children).bind
    intro outcomes
    exact (Action.keeps_pure (some outcomes)).preserves part

/-- What is gathered is what the workers have come to with the seeds they took, unless there were to
be none. -/
theorem of_gather_eq_ok {samples workers threads : Value}
    {carryOut : Bool → List SeedSequence → Action σ (List (Outcome α))}
    {before middle : Session σ α} {result : Option (List (Outcome α))}
    (gathered : gather samples workers threads carryOut before = .ok result middle) :
    (workers.toCount "worker count" = .ok 0 ∧ result = none ∧ middle = before) ∨
      ∃ count seeds later outcomes last,
        workers.toCount "worker count" = .ok count ∧
          before.seed.spawn count = .ok (seeds, later) ∧
            carryOut before.history.isSome seeds before.surroundings = .ok outcomes last ∧
              result = some outcomes ∧
                middle = { before with seed := later, surroundings := last } := by
  unfold gather at gathered
  obtain ⟨count, _, accepted, rest⟩ := Action.bind_eq_ok_iff.mp gathered
  obtain ⟨accepts, rfl⟩ := Action.ofExcept_eq_ok_iff.mp accepted
  have counts := toCount_of_acceptedWorkers accepts
  by_cases noWorkers : count = 0
  · rw [if_pos noWorkers] at rest
    cases rest
    rw [noWorkers] at counts
    exact Or.inl ⟨counts, rfl, rfl⟩
  · rw [if_neg noWorkers] at rest
    obtain ⟨seeds, _, taken, rest⟩ := Action.bind_eq_ok_iff.mp rest
    obtain ⟨keep, _, kept, rest⟩ := Action.bind_eq_ok_iff.mp rest
    cases kept
    obtain ⟨outcomes, _, carried, rest⟩ := Action.bind_eq_ok_iff.mp rest
    cases rest
    obtain ⟨later, spawned, rfl⟩ := takeSeeds_eq_ok_iff.mp taken
    obtain ⟨last, ran, rfl⟩ := inside_eq_ok_iff.mp carried
    exact Or.inr ⟨count, seeds, later, outcomes, last, counts, spawned, ran, rfl, rfl⟩

end Session

namespace Sampler

variable {σ α : Type}

/-! ## Sequential searches -/

/-- A sequential search on a stream and with a history of the caller's own. -/
theorem search_apply (sampler : Sampler σ α) (samples : Nat) (seed : Seed) (generator : Generator)
    (history : List (Validated α)) (surroundings : σ) :
    sampler.search (.int samples) ⟨seed, some generator, some history, surroundings⟩ =
      match sampler.pass (.int samples) none true (generator, surroundings) with
      | .ok outcome (moved, after) =>
          .ok outcome.best ⟨seed, some moved, some (history ++ outcome.batch), after⟩
      | .error fault (moved, after) => .error fault ⟨seed, some moved, some history, after⟩ := by
  unfold search
  rw [Value.toCount_natCast]
  simp only [Action.ofExcept_ok, Action.bind_apply, Action.pure_apply, Session.hasHistory,
    Session.streaming, Option.isSome_some]
  cases sampler.pass (.int samples) none true (generator, surroundings) with
  | ok outcome last => rfl
  | error fault last => rfl

/-! ## Parallel searches -/

/-- The last selection, among the winners of all workers. -/
def selectWinner (sampler : Sampler σ α) (outcomes : List (Outcome α)) :
    Action σ (Option (Validated α)) :=
  sampler.best ((outcomes.filterMap Outcome.best).map some) none

/-- What a parallel search does with the outcomes of its workers, if there were any workers. -/
def conclude (sampler : Sampler σ α) :
    Option (List (Outcome α)) → Action (Session σ α) (Option (Validated α))
  | none => pure none
  | some outcomes => do
      Session.remember (outcomes.flatMap Outcome.batch)
      Session.inside (sampler.selectWinner outcomes)

theorem searchParallelBy_eq_gather {sampler : Sampler σ α} {samples workers threads : Value}
    {carryOut : Bool → List SeedSequence → Action σ (List (Outcome α))} :
    sampler.searchParallelBy samples workers threads carryOut =
      Session.gather samples workers threads carryOut >>= sampler.conclude := by
  unfold searchParallelBy Session.gather acceptedWorkers
  simp only [Action.ofExcept_bind, bind_assoc]
  apply bind_congr
  intro _
  apply bind_congr
  intro count
  apply bind_congr
  intro _
  have accepted : (Action.ofExcept (pure count) : Action (Session σ α) Nat) = pure count := rfl
  rw [accepted, pure_bind]
  by_cases noWorkers : count = 0
  · rw [if_pos noWorkers, if_pos noWorkers]
    rfl
  · rw [if_neg noWorkers, if_neg noWorkers]
    simp only [bind_assoc, pure_bind]
    rfl

theorem searchParallelBy_of_refused (sampler : Sampler σ α) {samples workers threads : Value}
    {fault : Fault} (refused : acceptedWorkers samples workers threads = .error fault)
    (carryOut : Bool → List SeedSequence → Action σ (List (Outcome α))) (session : Session σ α) :
    sampler.searchParallelBy samples workers threads carryOut session = .error fault session := by
  rw [searchParallelBy_eq_gather]
  unfold Session.gather
  rw [refused]
  rfl

theorem searchParallelBy_of_accepted (sampler : Sampler σ α) {samples workers threads : Value}
    {count : Nat} (accepts : acceptedWorkers samples workers threads = .ok count)
    (carryOut : Bool → List SeedSequence → Action σ (List (Outcome α))) (session : Session σ α) :
    sampler.searchParallelBy samples workers threads carryOut session =
      if count = 0 then
        .ok none session
      else
        match session.seed.spawn count with
        | .error fault => .error fault session
        | .ok (seeds, later) =>
            match carryOut session.history.isSome seeds session.surroundings with
            | .error fault after =>
                .error fault { session with seed := later, surroundings := after }
            | .ok outcomes after =>
                Session.inside (sampler.selectWinner outcomes)
                  { session with
                    seed := later
                    history := session.history.map (· ++ outcomes.flatMap Outcome.batch)
                    surroundings := after } := by
  rw [searchParallelBy_eq_gather]
  unfold Session.gather
  rw [accepts, Action.ofExcept_ok, pure_bind]
  by_cases noWorkers : count = 0
  · rw [if_pos noWorkers, if_pos noWorkers]
    rfl
  · rw [if_neg noWorkers, if_neg noWorkers]
    simp only [Action.bind_apply, Session.takeSeeds]
    cases session.seed.spawn count with
    | error fault => rfl
    | ok spawned =>
        obtain ⟨seeds, later⟩ := spawned
        simp only [Session.hasHistory, Session.inside]
        cases carryOut session.history.isSome seeds session.surroundings with
        | error fault after => rfl
        | ok outcomes after => rfl

/-- What a parallel search that returns has gone through, unless it had no workers. -/
theorem of_searchParallelBy_eq_ok {sampler : Sampler σ α} {samples workers threads : Value}
    {carryOut : Bool → List SeedSequence → Action σ (List (Outcome α))}
    {before after : Session σ α} {winner : Option (Validated α)}
    (returned : sampler.searchParallelBy samples workers threads carryOut before =
      .ok winner after) :
    (workers.toCount "worker count" = .ok 0 ∧ winner = none ∧ after = before) ∨
      ∃ count seeds later outcomes middle last,
        workers.toCount "worker count" = .ok count ∧
          before.seed.spawn count = .ok (seeds, later) ∧
            carryOut before.history.isSome seeds before.surroundings = .ok outcomes middle ∧
              sampler.selectWinner outcomes middle = .ok winner last ∧
                after.history = before.history.map (· ++ outcomes.flatMap Outcome.batch) := by
  rw [searchParallelBy_eq_gather] at returned
  obtain ⟨gathered, reached, ran, concluding⟩ := Action.bind_eq_ok_iff.mp returned
  rcases Session.of_gather_eq_ok ran with ⟨counts, rfl, rfl⟩ | workersReturned
  · cases concluding
    exact Or.inl ⟨counts, rfl, rfl⟩
  · obtain ⟨count, seeds, later, outcomes, middle, counts, spawned, carried, rfl, rfl⟩ :=
      workersReturned
    obtain ⟨_, _, remembered, selecting⟩ := Action.bind_eq_ok_iff.mp concluding
    cases remembered
    obtain ⟨last, selected, rfl⟩ := Session.inside_eq_ok_iff.mp selecting
    exact Or.inr ⟨count, seeds, later, outcomes, middle, last, counts, spawned, carried, selected,
      rfl⟩

/-! ## A small box -/

def largestSum : Selector (List Int) :=
  ⟨.maximise, fun point => .ok (.int (point.foldr (· + ·) 0))⟩

/-- A sampler that draws points of a small box and looks for one with a large sum, but not too large
a sum. -/
def sums : Sampler Unit (List Int) where
  problem :=
    .ofDraw (Action.onFirst (Action.step (Generator.drawBox [0, -4] [9, 4]))) largestSum
  constraints := [⟨"small", fun point => pure (.bool (decide (point.foldr (· + ·) 0 ≤ 8)))⟩]

end Sampler

namespace Session

variable {σ α : Type}

/-- The candidates that a search has found and kept, if it returns. -/
def seen : EStateM.Result Fault (Session σ α) (Option (Validated α)) →
    Option (Option α × Option (List α))
  | .ok winner after => some (winner.map Validated.candidate,
      after.history.map fun batch => batch.map Validated.candidate)
  | .error _ _ => none

theorem of_seen_eq_some {result : EStateM.Result Fault (Session σ α) (Option (Validated α))}
    {found : Option α} {kept : Option (List α)} (saw : seen result = some (found, kept)) :
    ∃ winner after, result = .ok winner after ∧ winner.map Validated.candidate = found ∧
      after.history.map (fun batch => batch.map Validated.candidate) = kept := by
  cases result with
  | ok winner after =>
      cases saw
      exact ⟨winner, after, rfl, rfl, rfl⟩
  | error fault after => cases saw

end Session

end RandomSearch
