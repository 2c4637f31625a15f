import RandomSearch.Problem
import RandomSearch.Record

/-!
# Problems with listed candidates

The candidates of such a problem are listed: each draw takes one of them, chosen by the stream or in
order, and some draws fail instead.  The surroundings count the draws.
-/

namespace RandomSearch

/-- What a draw from a list gives: a record, or a fault. -/
abbrev Listed :=
  Except Fault Record

namespace Listed

def drawChosen (items : List Listed) : Action (Generator × Nat) Record := do
  let position ← Action.onFirst (Action.step (Generator.drawBelow items.length))
  match items[position]? with
  | some item => Action.ofExcept item
  | none => throw (.ofStream .nothingToDraw)

def drawInTurn (items : List Listed) : Action (Generator × Nat) Record := do
  let (_, drawn) ← get
  match items[drawn % items.length]? with
  | some item => Action.ofExcept item
  | none => throw (.ofValue .integerModulusZero)

end Listed

/-- A problem whose draws are counted, whether they fail or not. -/
def Problem.counted {α : Type} (problem : Problem Nat α) : Problem Nat α where
  draw := do
    let drawn ← problem.draw.attempt
    modify fun (generator, count) => (generator, count + 1)
    Action.ofExcept drawn
  select := problem.select

end RandomSearch
