import RandomSearch.Configuration
import RandomSearch.Sampler
import RandomSearch.Linear.Reading
import RandomSearch.Report

/-!
# Configured searches

A configured search reads its problem, runs a parallel search and sums up what was found.  If a pool
of processes is asked for and is not available, the search falls back to threads.
-/

namespace RandomSearch

/-- A pool of processes: what it does with tasks, and why it cannot be had, if it cannot. -/
structure ProcessPool where
  refusal : Option Fault
  executor : Executor

namespace ProcessPool

def available : ProcessPool :=
  ⟨none, Executor.threads⟩

end ProcessPool

/-- Whether a fault shows that there is no pool of processes. -/
def Fault.isUnavailable (fault : Fault) : Bool :=
  match fault.kind with
  | .permissionError | .notImplementedError | .osError | .fileNotFoundError
  | .isADirectoryError | .notADirectoryError => true
  | _ => false

structure Search where
  config : Configuration
  problem : LinearProblem
  constraints : List (Constraint Unit Mix)
  root : SeedSequence

namespace Search

/-- Make a search ready to run.  The root of all randomness is made once. -/
def ofConfig (config : Configuration) : Except Fault Search := do
  let problem ← LinearProblem.ofValue config.problem
  let root ← SeedSequence.ofEntropy config.seed []
  let constraints ← problem.namedConstraints
  return ⟨config, problem, constraints, root⟩

def sampler (search : Search) : Sampler Unit Mix :=
  ⟨search.problem.toProblem, search.constraints⟩

def session (search : Search) : Session Unit Mix :=
  ⟨.root search.root, none, none, ()⟩

def runOn (search : Search) (executor : Executor) :
    Action (Session Unit Mix) (Option (Validated Mix)) :=
  search.sampler.searchParallel search.config.samplesPerWorker search.config.workers .null executor

def runOnPool (search : Search) (pool : ProcessPool) :
    Action (Session Unit Mix) (Option (Validated Mix)) :=
  match pool.refusal with
  | some fault => throw fault
  | none => search.runOn pool.executor

/-! ## Lines -/

def say (line : Text) : Action (List Text) Unit :=
  Action.step fun lines => ((), lines ++ [line])

def queuedLine (search : Search) : Except Fault Text := do
  let workers ← search.config.workers.written
  let samples ← search.config.samplesPerWorker.written
  let seed ← search.root.entropy.written
  return "[search] queued " ++ workers ++ " worker(s) x " ++ samples ++ " samples (seed=" ++ seed ++
    ")"

def fallbackLine (fault : Fault) : Text :=
  "[search] process pool unavailable (" ++ fault.message ++ "), falling back to threads"

def hundredthsText (hundredths : Nat) : String :=
  s!"{hundredths / 100}.{hundredths / 10 % 10}{hundredths % 10}"

/-- The line after a search that took the given number of hundredths of a second. -/
def evaluatedLine (total : Value) (elapsed : Nat) : Except Fault Text := do
  return "[search] evaluated " ++ (← total.written) ++
    s!" candidates in {hundredthsText elapsed}s"

/-! ## Running -/

/-- Find the best candidate, on the pool of processes if that is asked for and available, and on
threads otherwise. -/
def best (search : Search) (pool : ProcessPool) :
    Action (Session Unit Mix × List Text) (Option (Validated Mix)) := do
  if search.config.useProcesses.truthy then
    match ← Action.onFirst (search.runOnPool pool).attempt with
    | .ok found => return found
    | .error fault =>
        if !fault.isUnavailable then
          throw fault
        Action.onSecond (say (fallbackLine fault))
  Action.onFirst (search.runOn Executor.threads)

def summarise (search : Search) (total : Value) (best : Option (Validated Mix)) :
    Except Fault Summary := do
  let names := search.constraints.map Constraint.name
  let attributes ←
    match best with
    | some winner => winner.candidate.toEntries
    | none => .ok []
  let verdicts ←
    match best with
    | some winner => winner.verdictsByName names
    | none => .ok []
  return {
    best := best
    seed := search.root.entropy
    samples := total
    attributes := attributes
    goal := (best.map fun winner => winner.candidate.goal).getD .null
    verdicts := verdicts.map fun (name, verdict) => (.str name, verdict)
    constraints := ← search.problem.descriptions }

/-- Make a configured search ready and announce it. -/
def queue (config : Configuration) : Action (List Text) Search := do
  let search ← Action.ofExcept (ofConfig config)
  say (← Action.ofExcept search.queuedLine)
  return search

def find (search : Search) (pool : ProcessPool) : Action (List Text) (Option (Validated Mix)) :=
  Action.withFirst search.session (search.best pool)

/-- Tell how long a search has taken, and sum up what it has found. -/
def conclude (search : Search) (found : Option (Validated Mix)) (elapsed : Nat) :
    Action (List Text) Summary := do
  let total ← Action.ofExcept search.config.sampleCount
  say (← Action.ofExcept (evaluatedLine total elapsed))
  Action.ofExcept (search.summarise total found)

/-- Run a configured search in any monad that can perform its parts and tell the time that one of
them takes, in hundredths of a second. -/
def runWith {m : Type → Type} [Monad m] (perform : {β : Type} → Action (List Text) β → m β)
    (timed : {β : Type} → m β → m (β × Nat)) (config : Configuration) (pool : ProcessPool) :
    m Summary := do
  let search ← perform (queue config)
  let (found, elapsed) ← timed (perform (search.find pool))
  perform (search.conclude found elapsed)

/-- Run a configured search that is said to have taken the given time. -/
def run (config : Configuration) (pool : ProcessPool) (elapsed : Nat) :
    Action (List Text) Summary :=
  runWith (fun part => part) (fun part => do return (← part, elapsed)) config pool

end Search

end RandomSearch
