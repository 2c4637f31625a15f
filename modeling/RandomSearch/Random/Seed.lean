import RandomSearch.Random.Generator

/-!
# Seeds

A seed is a value, from which a new sequence is made whenever the seed is used, or a sequence, which
remembers the children it has had.
-/

namespace RandomSearch

/-- Where the randomness of a search starts. -/
inductive Seed where
  | value (entropy : Value)
  | root (sequence : SeedSequence)

namespace Seed

def toSequence : Seed → Except Fault SeedSequence
  | .value entropy => SeedSequence.ofEntropy entropy []
  | .root sequence => .ok sequence

def generator (seed : Seed) : Except Fault Generator := do
  return Generator.ofSequence (← seed.toSequence)

/-- A seed after its sequence has had children.  A value forgets them. -/
def afterSpawn (seed : Seed) (spawned : SeedSequence) : Seed :=
  match seed with
  | .value entropy => .value entropy
  | .root _ => .root spawned

def spawn (seed : Seed) (count : Int) : Except Fault (List SeedSequence × Seed) :=
  if count < 0 then
    .error (.refusal (.negativeCount "worker count" (.int count)))
  else do
    let spawned := (← seed.toSequence).spawn count.toNat
    return (spawned.1, seed.afterSpawn spawned.2)

/-- The entropy with which a search can be repeated. -/
def entropy : Seed → Except Fault Value
  | .value .null => .ok .null
  | .value entropy => entropy.toInteger.map .int
  | .root sequence => .ok sequence.entropy

end Seed

end RandomSearch
