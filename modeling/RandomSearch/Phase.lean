import RandomSearch.Text.Lower

/-!
# The phases of a search pass

One pass generates candidates, validates them and selects the best.  The phases only label where
code supplied by the caller failed.
-/

namespace RandomSearch

inductive Phase where
  | idle
  | generating
  | validating
  | selecting
  | done
  deriving DecidableEq, Repr

namespace Phase

/-- The phases in the order in which a pass goes through them. -/
def all : List Phase :=
  [.idle, .generating, .validating, .selecting, .done]

def name : Phase → String
  | .idle => "IDLE"
  | .generating => "GENERATING"
  | .validating => "VALIDATING"
  | .selecting => "SELECTING"
  | .done => "DONE"

/-- The number of a phase, from one. -/
def number : Phase → Nat
  | .idle => 1
  | .generating => 2
  | .validating => 3
  | .selecting => 4
  | .done => 5

end Phase

/-- What a failure names as the place where it happened: a phase, or words of the caller's own. -/
inductive PhaseLabel where
  | phase (stage : Phase)
  | custom (words : Text)
  deriving DecidableEq, Repr

namespace PhaseLabel

def name : PhaseLabel → Text
  | .phase stage => stage.name
  | .custom words => words

/-- The name of the place in lower case, as it stands inside a sentence. -/
def inSentence (label : PhaseLabel) : Text :=
  label.name.lower

end PhaseLabel

end RandomSearch
