import RandomSearch.Value.Arithmetic
import RandomSearch.Value.Convert
import RandomSearch.Yaml.Document

/-!
# Search configurations

A configuration says how many samples each worker draws, how many workers there are, where the
randomness starts, whether the workers run in a pool of processes, and which problem is searched.
-/

namespace RandomSearch

structure Configuration where
  samplesPerWorker : Value
  workers : Value
  seed : Value
  useProcesses : Value
  problem : Value

namespace Configuration

def refuseNegative (label : String) (count : Value) : Except Fault Unit := do
  if ← count.compare .lt (.int 0) then
    throw (.refusal (.negativeCount label count))

def check (config : Configuration) : Except Fault Configuration := do
  refuseNegative "samples_per_worker" config.samplesPerWorker
  refuseNegative "workers" config.workers
  return config

/-- The configuration with the given number of samples, and the usual values for all else. -/
def ofSamples (samplesPerWorker : Value) : Configuration where
  samplesPerWorker := samplesPerWorker
  workers := .int 1
  seed := .null
  useProcesses := .bool false
  problem := .map []

/-- How many samples all workers draw together. -/
def sampleCount (config : Configuration) : Except Fault Value :=
  match config.samplesPerWorker.times config.workers with
  | .ok (.number total) => .ok (.ofNumber total)
  | .ok (.repeated kind) => .error (.ofValue (.notARepeatCount kind))
  | .error fault => .error (.ofValue fault)

/-! ## Reading -/

def ofEntries (entries : List (Value × Value)) : Except Fault Configuration := do
  let given := Value.fieldOr entries "seed" .null
  let samples ← (← Value.field entries "samples_per_worker").toInteger
  let workers ← (Value.fieldOr entries "workers" (.int 1)).toInteger
  let seed ←
    match given with
    | .null => .ok .null
    | _ => given.toInteger.map Value.int
  let useProcesses := (Value.fieldOr entries "use_processes" (.bool false)).truthy
  let problem ← (← Value.field entries "problem").toMap
  check ⟨.int samples, .int workers, seed, .bool useProcesses, .map problem⟩

/-- Whether a fault shows that a document does not hold a configuration. -/
def isMalformed (fault : Fault) : Bool :=
  fault.kind == .keyError || fault.kind == .typeError || fault.kind == .valueError

/-- Read a configuration from a value; the path tells where the value is from. -/
def ofValue (path : Text) (value : Value) : Except Fault Configuration :=
  match value with
  | .map entries =>
      match ofEntries entries with
      | .ok config => .ok config
      | .error fault =>
          .error (if isMalformed fault then .malformed (.search path) fault else fault)
  | _ => .error (.refusal (.notAMapping path))

def ofText (path : Text) (text : String) : Except Fault Configuration := do
  ofValue path (← Yaml.read text)

/-! ## The standard configuration -/

/-- A constraint of the standard problem, as it stands in a document. -/
def standardConstraint (name : String) (first second bound : Int) : Value :=
  .map [
    (.str "name", .str name),
    (.str "coefficients", .list [.int first, .int second]),
    (.str "bound", .int bound)]

/-- The configuration that is used where no other is given: the product mix. -/
def standard : Configuration where
  samplesPerWorker := .int 25000
  workers := .int 4
  seed := .int 2024
  useProcesses := .bool false
  problem := .map [
    (.str "variables", .list [.str "x1", .str "x2"]),
    (.str "objective", .list [.int 350, .int 300]),
    (.str "direction", .str "max"),
    (.str "lower", .int 1),
    (.str "upper", .int 174),
    (.str "constraints", .list [
      standardConstraint "capacity" 1 1 200,
      standardConstraint "labour" 9 6 1566,
      standardConstraint "machine_time" 12 16 2880])]

end Configuration

end RandomSearch
