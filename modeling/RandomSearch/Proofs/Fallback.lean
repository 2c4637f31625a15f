import RandomSearch.Proofs.Session
import RandomSearch.Search

/-!
# Falling back to threads

A search that was to run in a pool of processes runs on threads if the pool turns out not to be
available.  The root of its randomness may have had children by then: it has none if the pool cannot
be had at all, but once a task is refused all workers have taken theirs.  The threads go on from
there, so that they draw different candidates than a search that ran on threads from the start.
-/

namespace RandomSearch

/-! ## Refused tasks -/

namespace Executor

variable {σ ι β : Type} {executor : Executor} {fault : Fault} {refused : Nat}

/-- Submission ends with the first refusal, whatever becomes of the tasks before it. -/
theorem submitFrom_of_refuses (task : Nat → ι → Action σ β)
    (refuses : executor refused = .refuses fault)
    (earlier : ∀ place < refused, ∀ other, executor place ≠ .refuses other) (items : List ι)
    {position : Nat} (lower : position ≤ refused) (upper : refused < position + items.length)
    (surroundings : σ) :
    ∃ futures after,
      executor.submitFrom task position items surroundings = .ok ⟨futures, some fault⟩ after := by
  induction items generalizing position surroundings with
  | nil => exact absurd upper (by simpa using lower)
  | cons item rest inductionHypothesis =>
      rcases Nat.eq_or_lt_of_le lower with here | later
      · subst here
        refine ⟨[], surroundings, ?_⟩
        simp only [submitFrom, refuses, Action.pure_apply]
      · have restUpper : refused < position + 1 + rest.length := by
          rw [List.length_cons] at upper
          omega
        -- Whatever becomes of this task, the refusal comes among the others.
        have proceeds : ∀ (first : Future β) (middle : σ), ∃ futures after,
            (do
              let others ← submitFrom executor task (position + 1) rest
              return { others with futures := first :: others.futures } :
                Action σ (Submission β)) middle = .ok ⟨futures, some fault⟩ after := by
          intro first middle
          obtain ⟨futures, after, submitted⟩ := inductionHypothesis later restUpper middle
          refine ⟨first :: futures, after, ?_⟩
          rw [Action.bind_apply, submitted]
          rfl
        unfold submitFrom
        cases handling : executor position with
        | runs =>
            simp only
            rw [Action.bind_apply, Action.attempt_apply]
            exact proceeds _ _
        | cancels => exact proceeds .cancelled surroundings
        | loses reason => exact proceeds (.failed reason) surroundings
        | delays => exact proceeds .waiting surroundings
        | refuses other => exact absurd handling (earlier position later other)

/-- The first refusal is the fault of the whole. -/
theorem runAll_of_refuses (task : Nat → ι → Action σ β)
    (refuses : executor refused = .refuses fault)
    (earlier : ∀ place < refused, ∀ other, executor place ≠ .refuses other) {items : List ι}
    (inside : refused < items.length) (surroundings : σ) :
    ∃ after, executor.runAll task items surroundings = .error fault after := by
  obtain ⟨futures, after, submitted⟩ := submitFrom_of_refuses task refuses earlier items
    (Nat.zero_le refused) (by omega) surroundings
  refine ⟨after, ?_⟩
  simp only [runAll, Action.bind_apply, submitted, Action.throw_apply]

end Executor

/-! ## Unavailable pools -/

/-- A pool is not available to so many workers if it cannot be had, or if it refuses one of their
tasks.  What it does with the tasks before that one does not matter. -/
inductive ProcessPool.Unavailable (pool : ProcessPool) (workers : Nat) (fault : Fault) : Prop where
  | asWhole (unavailable : fault.isUnavailable = true) (refusal : pool.refusal = some fault)
  | atTask (unavailable : fault.isUnavailable = true) (refusal : pool.refusal = none)
      (refused : Nat) (inside : refused < workers)
      (refuses : pool.executor refused = .refuses fault)
      (earlier : ∀ place < refused, ∀ other, pool.executor place ≠ .refuses other)

/-- The root that a pool leaves to the threads if it is not available to so many workers. -/
def ProcessPool.rootLeft (pool : ProcessPool) (root : SeedSequence) (workers : Nat) :
    SeedSequence :=
  match pool.refusal with
  | some _ => root
  | none => (root.spawn workers).2

namespace Search

variable {search : Search} {samples workers : Nat} {pool : ProcessPool} {fault : Fault}

/-- The session in which a search starts, from another root. -/
def sessionFrom (root : SeedSequence) : Session Unit Mix :=
  ⟨.root root, none, none, ()⟩

/-- What a search on threads finds that starts from the given root. -/
def foundFrom (search : Search) (root : SeedSequence) : Except Fault (Option (Validated Mix)) :=
  (search.runOn Executor.threads).outcome (sessionFrom root)

/-- A refused task ends the search on the pool after all workers have taken their seeds. -/
theorem runOn_of_refuses (sampled : search.config.samplesPerWorker = .int samples)
    (counted : search.config.workers = .int workers) {executor : Executor} {refused : Nat}
    (inside : refused < workers) (refuses : executor refused = .refuses fault)
    (earlier : ∀ place < refused, ∀ other, executor place ≠ .refuses other) :
    search.runOn executor search.session =
      .error fault (sessionFrom (search.root.spawn workers).2) := by
  have allowed : checkThreads .null = .ok () := rfl
  have ran := search.sampler.searchParallelBy_of_accepted
    (acceptedWorkers_natCast samples workers allowed)
    (fun keep seeds => executor.runAll (search.sampler.workerTask (.int samples) keep) seeds)
    search.session
  have seedCount : refused < (search.root.spawn workers).1.length := by
    rwa [SeedSequence.length_spawn]
  obtain ⟨after, failed⟩ := Executor.runAll_of_refuses
    (search.sampler.workerTask (.int samples) search.session.history.isSome)
    refuses earlier seedCount search.session.surroundings
  have spawned : search.session.seed.spawn workers =
      .ok ((search.root.spawn workers).1, .root (search.root.spawn workers).2) :=
    Seed.spawn_root search.root workers
  rw [if_neg (by omega), spawned] at ran
  simp only [failed] at ran
  unfold runOn
  rw [sampled, counted]
  exact ran

/-- If the pool is not available, the search goes on with threads, from the root that the pool
leaves. -/
theorem best_of_unavailable (asked : search.config.useProcesses.truthy = true)
    (sampled : search.config.samplesPerWorker = .int samples)
    (counted : search.config.workers = .int workers) (unavailable : pool.Unavailable workers fault)
    (lines : List Text) :
    search.best pool (search.session, lines) =
      Action.onFirst (search.runOn Executor.threads)
        (sessionFrom (pool.rootLeft search.root workers), lines ++ [fallbackLine fault]) := by
  have attempted : fault.isUnavailable = true ∧ search.runOnPool pool search.session =
      .error fault (sessionFrom (pool.rootLeft search.root workers)) := by
    unfold runOnPool ProcessPool.rootLeft
    cases unavailable with
    | asWhole isUnavailable refusal =>
        rw [refusal]
        exact ⟨isUnavailable, rfl⟩
    | atTask isUnavailable refusal refused inside refuses earlier =>
        rw [refusal]
        exact ⟨isUnavailable, runOn_of_refuses sampled counted inside refuses earlier⟩
  obtain ⟨isUnavailable, failed⟩ := attempted
  unfold best
  simp only [asked, if_true, Action.bind_apply, Action.onFirst, Action.attempt, failed,
    isUnavailable, Bool.not_true, Bool.false_eq_true, if_false]
  rfl

/-- If no pool is asked for, the search runs on threads from the start. -/
theorem best_of_not_asked (notAsked : search.config.useProcesses.truthy = false)
    (lines : List Text) :
    search.best pool (search.session, lines) =
      Action.onFirst (search.runOn Executor.threads) (sessionFrom search.root, lines ++ []) := by
  unfold best
  simp only [notAsked, Bool.false_eq_true, if_false, List.append_nil]
  rfl

/-! ## Whole searches -/

/-- A search is made of the problem, the root and the constraints that its configuration gives. -/
theorem ofConfig_eq_ok_iff {config : Configuration} {search : Search} :
    ofConfig config = .ok search ↔ ∃ problem root constraints,
      LinearProblem.ofValue config.problem = .ok problem ∧
        SeedSequence.ofEntropy config.seed [] = .ok root ∧
        problem.namedConstraints = .ok constraints ∧
        search = ⟨config, problem, constraints, root⟩ := by
  constructor
  · intro made
    obtain ⟨problem, read, made⟩ := except_bind_eq_ok_iff.mp made
    obtain ⟨root, seeded, made⟩ := except_bind_eq_ok_iff.mp made
    obtain ⟨constraints, named, made⟩ := except_bind_eq_ok_iff.mp made
    cases made
    exact ⟨problem, root, constraints, read, seeded, named, rfl⟩
  · rintro ⟨problem, root, constraints, read, seeded, named, rfl⟩
    exact except_bind_eq_ok_iff.mpr ⟨problem, read, except_bind_eq_ok_iff.mpr
      ⟨root, seeded, except_bind_eq_ok_iff.mpr ⟨constraints, named, rfl⟩⟩⟩

theorem config_of_ofConfig {config : Configuration} {search : Search}
    (made : ofConfig config = .ok search) : search.config = config := by
  obtain ⟨_, _, _, _, _, _, rfl⟩ := ofConfig_eq_ok_iff.mp made
  rfl

theorem queue_eq_ok_iff {config : Configuration} {lines after : List Text} :
    queue config lines = .ok search after ↔ ∃ queued, ofConfig config = .ok search ∧
      search.queuedLine = .ok queued ∧ after = lines ++ [queued] := by
  constructor
  · intro ran
    obtain ⟨other, _, read, ran⟩ := Action.bind_eq_ok_iff.mp ran
    obtain ⟨made, rfl⟩ := Action.ofExcept_eq_ok_iff.mp read
    obtain ⟨queued, _, read, ran⟩ := Action.bind_eq_ok_iff.mp ran
    obtain ⟨written, rfl⟩ := Action.ofExcept_eq_ok_iff.mp read
    cases ran
    exact ⟨queued, made, written, rfl⟩
  · rintro ⟨queued, made, written, rfl⟩
    refine Action.bind_eq_ok_iff.mpr
      ⟨search, lines, Action.ofExcept_eq_ok_iff.mpr ⟨made, rfl⟩, ?_⟩
    exact Action.bind_eq_ok_iff.mpr
      ⟨queued, lines, Action.ofExcept_eq_ok_iff.mpr ⟨written, rfl⟩, rfl⟩

theorem conclude_eq_ok_iff {found : Option (Validated Mix)} {elapsed : Nat}
    {lines last : List Text} {summary : Summary} :
    search.conclude found elapsed lines = .ok summary last ↔
      ∃ total evaluated, search.config.sampleCount = .ok total ∧
        evaluatedLine total elapsed = .ok evaluated ∧ search.summarise total found = .ok summary ∧
          last = lines ++ [evaluated] := by
  constructor
  · intro ran
    obtain ⟨total, _, read, ran⟩ := Action.bind_eq_ok_iff.mp ran
    obtain ⟨counted, rfl⟩ := Action.ofExcept_eq_ok_iff.mp read
    obtain ⟨evaluated, _, read, ran⟩ := Action.bind_eq_ok_iff.mp ran
    obtain ⟨told, rfl⟩ := Action.ofExcept_eq_ok_iff.mp read
    obtain ⟨_, _, said, ran⟩ := Action.bind_eq_ok_iff.mp ran
    cases said
    obtain ⟨summed, same⟩ := Action.ofExcept_eq_ok_iff.mp ran
    exact ⟨total, evaluated, counted, told, summed, same.symm⟩
  · rintro ⟨total, evaluated, counted, told, summed, rfl⟩
    refine Action.bind_eq_ok_iff.mpr
      ⟨total, lines, Action.ofExcept_eq_ok_iff.mpr ⟨counted, rfl⟩, ?_⟩
    refine Action.bind_eq_ok_iff.mpr
      ⟨evaluated, lines, Action.ofExcept_eq_ok_iff.mpr ⟨told, rfl⟩, ?_⟩
    exact Action.bind_eq_ok_iff.mpr
      ⟨(), lines ++ [evaluated], rfl, Action.ofExcept_eq_ok_iff.mpr ⟨summed, rfl⟩⟩

/-- What a whole search that returns has gone through. -/
theorem run_eq_ok_iff {config : Configuration} {elapsed : Nat} {lines last : List Text}
    {summary : Summary} :
    run config pool elapsed lines = .ok summary last ↔
      ∃ search queued found session printed total evaluated,
        ofConfig config = .ok search ∧ search.queuedLine = .ok queued ∧
          search.best pool (search.session, lines ++ [queued]) = .ok found (session, printed) ∧
            config.sampleCount = .ok total ∧ evaluatedLine total elapsed = .ok evaluated ∧
              search.summarise total found = .ok summary ∧ last = printed ++ [evaluated] := by
  constructor
  · intro ran
    obtain ⟨search, _, begun, ran⟩ := Action.bind_eq_ok_iff.mp ran
    obtain ⟨queued, made, written, rfl⟩ := queue_eq_ok_iff.mp begun
    obtain ⟨_, printed, within, ran⟩ := Action.bind_eq_ok_iff.mp ran
    obtain ⟨found, _, finding, same⟩ := Action.bind_eq_ok_iff.mp within
    cases same
    obtain ⟨session, searched⟩ := Action.withFirst_eq_ok_iff.mp finding
    obtain ⟨total, evaluated, counted, told, summed, rfl⟩ := conclude_eq_ok_iff.mp ran
    rw [config_of_ofConfig made] at counted
    exact ⟨search, queued, found, session, printed, total, evaluated, made, written, searched,
      counted, told, summed, rfl⟩
  · rintro ⟨search, queued, found, session, printed, total, evaluated, made, written, searched,
      counted, told, summed, rfl⟩
    have finding : search.find pool (lines ++ [queued]) = .ok found printed :=
      Action.withFirst_eq_ok_iff.mpr ⟨session, searched⟩
    rw [← config_of_ofConfig made] at counted
    refine Action.bind_eq_ok_iff.mpr
      ⟨search, lines ++ [queued], queue_eq_ok_iff.mpr ⟨queued, made, written, rfl⟩, ?_⟩
    refine Action.bind_eq_ok_iff.mpr
      ⟨(found, elapsed), printed, Action.bind_eq_ok_iff.mpr ⟨found, printed, finding, rfl⟩, ?_⟩
    exact conclude_eq_ok_iff.mpr ⟨total, evaluated, counted, told, summed, rfl⟩

theorem foundFrom_eq_ok_iff {search : Search} {root : SeedSequence} {lines printed : List Text}
    {found : Option (Validated Mix)} :
    (∃ session, Action.onFirst (search.runOn Executor.threads) (sessionFrom root, lines) =
      .ok found (session, printed)) ↔ search.foundFrom root = .ok found ∧ printed = lines := by
  simp only [foundFrom, Action.outcome, Action.onFirst]
  cases search.runOn Executor.threads (sessionFrom root) with
  | ok result session => simp [eq_comm]
  | error present session => simp

theorem exists_ofConfig_of_run {config : Configuration} {elapsed : Nat} {lines last : List Text}
    {summary : Summary} (ran : run config pool elapsed lines = .ok summary last) :
    ∃ search, ofConfig config = .ok search := by
  obtain ⟨search, _, _, _, _, _, _, made, _⟩ := run_eq_ok_iff.mp ran
  exact ⟨search, made⟩

/-- The same for a search that comes down to one on threads, from some root and after some more
lines. -/
theorem run_eq_ok_iff_of_best {config : Configuration} (made : ofConfig config = .ok search)
    {root : SeedSequence} {extra : List Text}
    (goesOn : ∀ given, search.best pool (search.session, given) =
      Action.onFirst (search.runOn Executor.threads) (sessionFrom root, given ++ extra))
    {elapsed : Nat} {lines last : List Text} {summary : Summary} :
    run config pool elapsed lines = .ok summary last ↔
      ∃ queued found total evaluated,
        search.queuedLine = .ok queued ∧ search.foundFrom root = .ok found ∧
          config.sampleCount = .ok total ∧ evaluatedLine total elapsed = .ok evaluated ∧
            search.summarise total found = .ok summary ∧
              last = lines ++ [queued] ++ extra ++ [evaluated] := by
  rw [run_eq_ok_iff]
  constructor
  · rintro ⟨other, queued, found, session, printed, total, evaluated, madeOther, written, searched,
      counted, told, summed, rfl⟩
    cases made.symm.trans madeOther
    rw [goesOn] at searched
    obtain ⟨foundThere, rfl⟩ := foundFrom_eq_ok_iff.mp ⟨session, searched⟩
    exact ⟨queued, found, total, evaluated, written, foundThere, counted, told, summed, rfl⟩
  · rintro ⟨queued, found, total, evaluated, written, foundThere, counted, told, summed, rfl⟩
    obtain ⟨session, searched⟩ := foundFrom_eq_ok_iff.mpr
      ⟨foundThere, (rfl : lines ++ [queued] ++ extra = lines ++ [queued] ++ extra)⟩
    rw [← goesOn] at searched
    exact ⟨search, queued, found, session, _, total, evaluated, made, written, searched, counted,
      told, summed, rfl⟩

theorem best_of_summarise {total : Value} {found : Option (Validated Mix)} {summary : Summary}
    (summed : search.summarise total found = .ok summary) : summary.best = found := by
  unfold summarise at summed
  cases found with
  | none =>
      obtain ⟨attributes, _, made⟩ := except_bind_eq_ok_iff.mp summed
      obtain ⟨verdicts, _, made⟩ := except_bind_eq_ok_iff.mp made
      obtain ⟨descriptions, _, made⟩ := except_bind_eq_ok_iff.mp made
      cases made
      rfl
  | some winner =>
      obtain ⟨attributes, _, made⟩ := except_bind_eq_ok_iff.mp summed
      obtain ⟨verdicts, _, made⟩ := except_bind_eq_ok_iff.mp made
      obtain ⟨descriptions, _, made⟩ := except_bind_eq_ok_iff.mp made
      cases made
      rfl

end Search

/-- The same configuration on threads. -/
def Configuration.onThreads (config : Configuration) : Configuration :=
  { config with useProcesses := .bool false }

/-- The same configuration on a pool of processes. -/
def Configuration.onProcesses (config : Configuration) : Configuration :=
  { config with useProcesses := .bool true }

/-- Two searches have found the same. -/
def Summary.Agrees (left right : Summary) : Prop :=
  left.best = right.best ∧ left.attributes = right.attributes ∧ left.goal = right.goal ∧
    left.verdicts = right.verdicts

namespace Search

variable {samples workers : Nat} {pool : ProcessPool} {fault : Fault}

theorem ofConfig_onProcesses {config : Configuration} {search : Search}
    (made : ofConfig config.onThreads = .ok search) :
    ofConfig config.onProcesses = .ok { search with config := config.onProcesses } := by
  obtain ⟨problem, root, constraints, read, seeded, named, rfl⟩ := ofConfig_eq_ok_iff.mp made
  exact ofConfig_eq_ok_iff.mpr ⟨problem, root, constraints, read, seeded, named, rfl⟩

theorem root_of_ofConfig {config : Configuration} {search : Search}
    (made : ofConfig config = .ok search) {seed : Nat} (seeded : config.seed = .int seed) :
    search.root = .ofNat seed := by
  obtain ⟨_, root, _, _, rooted, _, rfl⟩ := ofConfig_eq_ok_iff.mp made
  rw [seeded, SeedSequence.ofEntropy_natCast] at rooted
  cases rooted
  rfl

/-- A search that falls back from a pool finds what the same search on threads finds exactly if the
pool could not be had at all, or if the threads find the same with the seeds of the next workers. -/
theorem run_onProcesses_agrees_iff {config : Configuration} {seed : Nat}
    (seeded : config.seed = .int seed) (sampled : config.samplesPerWorker = .int samples)
    (counted : config.workers = .int workers) (unavailable : pool.Unavailable workers fault)
    {elapsed : Nat} {lines last : List Text} {threaded : Summary}
    (completes : run config.onThreads pool elapsed lines = .ok threaded last) :
    ∃ search, ofConfig config.onProcesses = .ok search ∧
      search.foundFrom (.ofNat seed) = .ok threaded.best ∧
      ((∃ fellBack printed, run config.onProcesses pool elapsed lines = .ok fellBack printed ∧
          fellBack.Agrees threaded) ↔
        pool.refusal = some fault ∨
          search.foundFrom ((SeedSequence.ofNat seed).spawn workers).2 = .ok threaded.best) := by
  obtain ⟨plain, made⟩ := exists_ofConfig_of_run completes
  have madeAgain := ofConfig_onProcesses made
  have plainConfig := config_of_ofConfig made
  let search : Search := { plain with config := config.onProcesses }
  have root : plain.root = .ofNat seed := root_of_ofConfig made seeded
  have sameFound : plain.foundFrom = search.foundFrom := by
    funext given
    unfold foundFrom runOn
    rw [plainConfig]
    rfl
  have sameLine : plain.queuedLine = search.queuedLine := by
    unfold queuedLine
    rw [plainConfig]
    rfl
  have onThreads := @run_eq_ok_iff_of_best _ pool _ made plain.root [] (best_of_not_asked (by
    rw [plainConfig]
    rfl)) elapsed lines
  have onProcesses := @run_eq_ok_iff_of_best _ pool _ madeAgain
    (pool.rootLeft (.ofNat seed) workers) [fallbackLine fault] (fun given => by
      rw [best_of_unavailable rfl sampled counted unavailable given, ← root]) elapsed lines
  obtain ⟨queued, found, total, evaluated, written, fromRoot, sum, told, summed, -⟩ :=
    onThreads.mp completes
  rw [sameFound, root] at fromRoot
  rw [sameLine] at written
  have best : threaded.best = found := best_of_summarise summed
  have agrees : (∃ fellBack printed,
      run config.onProcesses pool elapsed lines = .ok fellBack printed ∧
        fellBack.Agrees threaded) ↔
      search.foundFrom (pool.rootLeft (.ofNat seed) workers) = .ok found := by
    constructor
    · rintro ⟨fellBack, _, ran, agrees⟩
      obtain ⟨_, result, _, _, _, foundThere, _, _, summedAgain, _⟩ := onProcesses.mp ran
      have same : result = found :=
        (best_of_summarise summedAgain).symm.trans (agrees.1.trans best)
      rw [← same]
      exact foundThere
    · intro foundThere
      have ran := onProcesses.mpr
        ⟨queued, found, total, evaluated, written, foundThere, sum, told, summed, rfl⟩
      exact ⟨threaded, _, ran, rfl, rfl, rfl, rfl⟩
  refine ⟨search, madeAgain, best ▸ fromRoot, agrees.trans ?_⟩
  rw [best]
  unfold ProcessPool.rootLeft
  cases unavailable with
  | asWhole _ refusal => simp [refusal, fromRoot]
  | atTask _ refusal _ _ _ _ => simp [refusal]

/-! ## A single digit -/

/-- One worker that draws one digit. -/
def oneDigit : Configuration where
  samplesPerWorker := .int 1
  workers := .int 1
  seed := .int 21
  useProcesses := .bool true
  problem := .map [
    (.str "variables", .list [.str "x1"]),
    (.str "objective", .list [.int 1]),
    (.str "lower", .int 0),
    (.str "upper", .int 9)]

/-- A pool that refuses every task. -/
def refusingPool : ProcessPool :=
  ⟨none, fun _ => .refuses (.raised .permissionError "no pools here")⟩

/-- The goal that a search has found, if it is an integer. -/
def integerGoal? : EStateM.Result Fault (List Text) Summary → Option Int
  | .ok ⟨_, _, _, _, .int goal, _, _⟩ _ => some goal
  | _ => none

theorem of_integerGoal?_eq_some {result : EStateM.Result Fault (List Text) Summary} {goal : Int}
    (found : integerGoal? result = some goal) :
    ∃ summary lines, result = .ok summary lines ∧ summary.goal = .int goal := by
  unfold integerGoal? at found
  split at found
  · cases found
    exact ⟨_, _, rfl, rfl⟩
  · cases found

theorem integerGoal?_oneDigit_onThreads :
    integerGoal? (run oneDigit.onThreads refusingPool 0 []) = some 7 := by
  decide +kernel

theorem run_onProcesses_agrees_iff_oneDigit :
    ∃ threaded last search, run oneDigit.onThreads refusingPool 0 [] = .ok threaded last ∧
      ofConfig oneDigit.onProcesses = .ok search ∧
        ((∃ fellBack printed, run oneDigit.onProcesses refusingPool 0 [] = .ok fellBack printed ∧
            fellBack.Agrees threaded) ↔
          refusingPool.refusal = some (.raised .permissionError "no pools here") ∨
            search.foundFrom ((SeedSequence.ofNat 21).spawn 1).2 = .ok threaded.best) := by
  obtain ⟨threaded, last, completes, _⟩ := of_integerGoal?_eq_some integerGoal?_oneDigit_onThreads
  have unavailable : refusingPool.Unavailable 1 (.raised .permissionError "no pools here") :=
    .atTask rfl rfl 0 Nat.zero_lt_one rfl fun place before => absurd before (Nat.not_lt_zero place)
  obtain ⟨search, made, _, agrees⟩ :=
    @run_onProcesses_agrees_iff 1 1 _ _ _ 21 rfl rfl rfl unavailable _ _ _ _ completes
  exact ⟨threaded, last, search, completes, made, agrees⟩

/-- If the first task is refused, the digit found is another than on threads. -/
theorem run_oneDigit_differs :
    ∃ threaded fellBack last printed,
      run oneDigit.onThreads refusingPool 0 [] = .ok threaded last ∧
        run oneDigit.onProcesses refusingPool 0 [] = .ok fellBack printed ∧
          threaded.goal = .int 7 ∧ fellBack.goal = .int 0 := by
  have differs : integerGoal? (run oneDigit.onProcesses refusingPool 0 []) = some 0 := by
    decide +kernel
  obtain ⟨threaded, last, completes, seven⟩ :=
    of_integerGoal?_eq_some integerGoal?_oneDigit_onThreads
  obtain ⟨fellBack, printed, ran, zero⟩ := of_integerGoal?_eq_some differs
  exact ⟨threaded, fellBack, last, printed, completes, ran, seven, zero⟩

end Search

end RandomSearch
