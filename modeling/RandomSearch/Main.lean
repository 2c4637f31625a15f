import RandomSearch.CommandLine.Command

/-!
# The program

The outer layer of the command: it reads the configuration from a file, takes entropy from the
system where no seed is given, measures the time and prints.
-/

namespace RandomSearch.CommandLine

def usage : String :=
  "usage: random-search [-h] [--config CONFIG] [--samples SAMPLES] [--workers WORKERS] " ++
    "[--seed SEED] [--processes]"

/-- What stands at a path of the system. -/
def entryAt (path : Text) : IO FileEntry := do
  match ← (IO.FS.readFile path.toString).toBaseIO with
  | .ok content => return .text content
  | .error (.inappropriateType _ code _) => return if code = 20 then .behindFile else .directory
  | .error (.invalidArgument _ code _) => return if code = 36 then .tooLong else .missing
  | .error _ => return .missing

def printText (text : Text) : IO Unit :=
  IO.println text.toString

/-- A number of as many bits as a generator can make use of, from the system. -/
def systemEntropy : IO Nat := do
  let bytes ← IO.getRandomBytes 16
  return bytes.toList.foldl (fun total byte => 256 * total + byte.toNat) 0

/-- A configuration with a seed: its own, or one from the system. -/
def withSeed (config : Configuration) : IO Configuration := do
  match config.seed with
  | .null => return { config with seed := .int (← systemEntropy) }
  | _ => return config

/-- Perform a part of a search and print its lines, even if it fails. -/
def printing {β : Type} (part : Action (List Text) β) : ExceptT Fault IO β := do
  -- A part that is timed must not be run before the clock is read.
  match ← (IO.lazyPure fun _ => part [] : IO _) with
  | .ok result lines => do
      lines.forM (printText ·)
      return result
  | .error fault lines => do
      lines.forM (printText ·)
      throw fault

/-- A part of a search together with the hundredths of a second that it takes. -/
def timed {β : Type} (part : ExceptT Fault IO β) : ExceptT Fault IO (β × Nat) := do
  let start ← IO.monoMsNow
  let result ← part
  let stop ← IO.monoMsNow
  return (result, (stop - start) / 10)

def runConfig (config : Configuration) : ExceptT Fault IO Unit := do
  let config ← withSeed config
  printing (printReport (← Search.runWith printing timed config ProcessPool.available))

def runOptions (options : Options) : ExceptT Fault IO Unit := do
  let entry ←
    match options.config with
    | some (.value path) => entryAt path
    | _ => pure .missing
  runConfig (← ExceptT.mk (pure (options.toConfig fun _ => entry)))

end RandomSearch.CommandLine

open RandomSearch RandomSearch.CommandLine

def main (arguments : List String) : IO UInt32 := do
  match readOptions (arguments.map Text.ofString) with
  | .error .helpWanted => do
      IO.println usage
      return 0
  | .error fault => do
      IO.eprintln usage
      IO.eprintln ("random-search: error: " ++ fault.message.toString)
      return 2
  | .ok options =>
      match ← (runOptions options).run with
      | .ok () => return 0
      | .error fault => do
          IO.eprintln s!"{fault.kind.name}: {fault.message.toString}"
          return 1
