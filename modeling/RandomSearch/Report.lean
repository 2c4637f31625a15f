import RandomSearch.Linear.Mix
import RandomSearch.Constraint

/-!
# Reports

What a search has found, and the lines in which it is shown: the values of the variables, the goal,
and for every constraint its description and whether it holds.
-/

namespace RandomSearch

structure Summary where
  best : Option (Validated Mix)
  seed : Value
  samples : Value
  attributes : List (Value × Value)
  goal : Value
  verdicts : List (Value × Value)
  constraints : List (Value × Value)

def padText (width : Nat) (text : Text) : Text :=
  text ++ List.replicate (width - text.length) (.scalar ' ')

/-- The text of a value filled up to a width.  Truth values count as numbers. -/
def Value.padded (width : Nat) (value : Value) : Except Fault Text :=
  match value with
  | .str s => .ok (padText width s)
  | _ =>
      match value.number? with
      | some number => (Value.ofNumber number).written.map (padText width)
      | none => .error (.ofValue (.notPadded value.kind))

namespace Summary

def constraintLine (described : List (Value × Value)) (name verdict : Value) :
    Except Fault Text := do
  let shownName ← name.padded 16
  let description ← ((Entries.get? described name).getD (.str "")).padded 28
  let judgement : Text := if verdict.truthy then "ok" else "VIOLATED"
  return "  " ++ shownName ++ " " ++ description ++ " " ++ judgement

def constraintLines (described : List (Value × Value)) :
    List (Value × Value) → Except Fault (List Text)
  | [] => .ok []
  | (name, verdict) :: rest => do
      let line ← constraintLine described name verdict
      let others ← constraintLines described rest
      return line :: others

def attributeLines : List (Value × Value) → Except Fault (List Text)
  | [] => .ok []
  | (name, value) :: rest => do
      let shownName ← name.written
      let shownValue ← value.written
      let others ← attributeLines rest
      return ("  " ++ shownName ++ " = " ++ shownValue) :: others

def bestLines (summary : Summary) : Except Fault (List Text) := do
  let attributes ← attributeLines summary.attributes
  let goal ← summary.goal.written
  let constraints ← constraintLines summary.constraints summary.verdicts
  return "[search] best candidate:" ::
    (attributes ++ ("  goal = " ++ goal) :: "[search] constraints:" :: constraints)

def report (summary : Summary) : Except Fault (List Text) :=
  if summary.best.isNone then
    .ok ["[search] no valid candidate found"]
  else
    summary.bestLines

end Summary

end RandomSearch
