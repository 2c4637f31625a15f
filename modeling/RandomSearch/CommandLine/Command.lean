import RandomSearch.CommandLine.Options
import RandomSearch.Search

/-!
# The command

The command reads a configuration, puts the options in the place of its parts, runs the search and
prints the report.
-/

namespace RandomSearch.CommandLine

inductive FileEntry where
  | text (content : String)
  | directory
  | missing
  /-- The path goes through something that is no directory. -/
  | behindFile
  /-- A step of the path, or the path as a whole, is longer than any name. -/
  | tooLong

def readConfiguration (path : Text) (entry : FileEntry) : Except Fault Configuration := do
  checkPath path
  match entry with
  | .text content => Configuration.ofText path content
  | .directory => throw (.ofFile (.isDirectory path))
  | .missing => throw (.ofFile (.missing path))
  | .behindFile => throw (.ofFile (.notDirectory path))
  | .tooLong => throw (.ofFile (.nameTooLong path))

def Options.override (options : Options) (config : Configuration) : Except Fault Configuration :=
  Configuration.check {
    samplesPerWorker := (options.samples.map Argument.toValue).getD config.samplesPerWorker
    workers := (options.workers.map Argument.toValue).getD config.workers
    seed := (options.seed.map Argument.toValue).getD config.seed
    useProcesses := if options.processes then .bool true else config.useProcesses
    problem := config.problem }

/-- The configuration that the options ask for.  An empty list cannot be read as a file. -/
def Options.toConfig (options : Options) (files : Text → FileEntry) :
    Except Fault Configuration := do
  let config ←
    match options.config with
    | some (.value path) => readConfiguration path (files path)
    | some .nothing => .error (.ofValue (.noAttribute (Value.Kind.name .list) "read_text"))
    | none => .ok Configuration.standard
  options.override config

def printReport (summary : Summary) : Action (List Text) Unit := do
  (← Action.ofExcept summary.report).forM Search.say

def Options.run (options : Options) (files : Text → FileEntry) (pool : ProcessPool)
    (elapsed : Nat) : Action (List Text) Unit := do
  let config ← Action.ofExcept (options.toConfig files)
  printReport (← Search.run config pool elapsed)

end RandomSearch.CommandLine
