import RandomSearch.Value.Convert

/-!
# Mixes

A mix assigns a value to every variable of a linear problem and has the goal that follows from them.
-/

namespace RandomSearch

/-- Values for the variables of a linear problem, with their goal and the names of the variables. -/
structure Mix where
  values : List Value
  goal : Value
  names : List Value

namespace Mix

/-- The names of the variables, which are numbered if they have none. -/
def shownNames (mix : Mix) : List Value :=
  if mix.names.isEmpty then
    (List.range mix.values.length).map fun position => .str s!"x{position + 1}"
  else
    mix.names

def toEntries (mix : Mix) : Except Fault (List (Value × Value)) :=
  Value.putAll [] (mix.shownNames.zip mix.values)

def text (mix : Mix) : Except Fault Text :=
  let values := Value.tuple mix.values
  if values.isWritable && mix.goal.isWritable then
    .ok ("IntegerMix(values=" ++ values.quotedText ++ ", goal=" ++ mix.goal.quotedText ++ ")")
  else
    .error (.ofValue .integerTooLong)

/-- Whether two mixes have the same values and the same goal. -/
def equals (left right : Mix) : Bool :=
  Value.equalItems left.values right.values && left.goal.equals right.goal

/-- The name under which a mix is an object with attributes. -/
def className : String :=
  "IntegerMix"

def attributeNamed (mix : Mix) (name : Text) : Except Fault Value :=
  if name = "values" then .ok (.tuple mix.values)
  else if name = "goal" then .ok mix.goal
  else if name = "names" then .ok (.tuple mix.names)
  else .error (.ofValue (.noAttribute className name))

end Mix

end RandomSearch
