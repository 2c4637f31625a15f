import RandomSearch.Direction
import RandomSearch.Constraint

/-!
# Selecting the best candidate

Of a batch the valid candidate with the best goal is selected, and of several with the best goal the
first.  Entries that are missing or not valid do not count.
-/

namespace RandomSearch

structure Selector (α : Type) where
  direction : Direction
  goal : α → Except Fault Value

namespace Selector

variable {α : Type}

/-- Select from the rest of a batch, when the best entry so far is known with its goal. -/
def pickFrom (selector : Selector α) (best : Option (Validated α × Value)) :
    List (Option (Validated α)) → Except Fault (Option (Validated α))
  | [] => .ok (best.map Prod.fst)
  | none :: rest => selector.pickFrom best rest
  | some entry :: rest =>
      if entry.isValid then
        match selector.goal entry.candidate with
        | .error fault => .error fault
        | .ok goal =>
            match best with
            | none => selector.pickFrom (some (entry, goal)) rest
            | some (held, heldGoal) =>
                match selector.direction.prefers goal heldGoal with
                | .error fault => .error fault
                | .ok true => selector.pickFrom (some (entry, goal)) rest
                | .ok false => selector.pickFrom (some (held, heldGoal)) rest
      else
        selector.pickFrom best rest

def pick (selector : Selector α) (batch : List (Option (Validated α))) :
    Except Fault (Option (Validated α)) :=
  selector.pickFrom none batch

/-! ## Entries that do not count -/

theorem pickFrom_of_not_isValid (selector : Selector α) (best : Option (Validated α × Value))
    {entry : Validated α} (notValid : entry.isValid = false)
    (rest : List (Option (Validated α))) :
    selector.pickFrom best (some entry :: rest) = selector.pickFrom best rest := by
  simp [pickFrom, notValid]

theorem pickFrom_mem (selector : Selector α) {best : Option (Validated α × Value)}
    {batch : List (Option (Validated α))} {winner : Validated α}
    (picked : selector.pickFrom best batch = .ok (some winner)) :
    best.map Prod.fst = some winner ∨ (some winner ∈ batch ∧ winner.isValid = true) := by
  induction batch generalizing best with
  | nil => exact Or.inl (Except.ok.inj picked)
  | cons item rest inductionHypothesis =>
      have later : ∀ {held : Option (Validated α × Value)},
          selector.pickFrom held rest = .ok (some winner) →
          held.map Prod.fst = some winner ∨
            (some winner ∈ item :: rest ∧ winner.isValid = true) := by
        intro held pickedLater
        rcases inductionHypothesis pickedLater with kept | ⟨found, valid⟩
        · exact Or.inl kept
        · exact Or.inr ⟨List.mem_cons_of_mem item found, valid⟩
      cases item with
      | none => exact later picked
      | some entry =>
          unfold pickFrom at picked
          split at picked
          · rename_i valid
            have taken : ∀ goal, selector.pickFrom (some (entry, goal)) rest = .ok (some winner) →
                best.map Prod.fst = some winner ∨
                  (some winner ∈ some entry :: rest ∧ winner.isValid = true) := by
              intro goal pickedLater
              rcases later pickedLater with kept | found
              · cases kept
                exact Or.inr ⟨List.mem_cons_self, valid⟩
              · exact Or.inr found
            split at picked
            · cases picked
            · split at picked
              · exact taken _ picked
              · split at picked
                · cases picked
                · exact taken _ picked
                · exact later picked
          · exact later picked

theorem pick_mem (selector : Selector α) {batch : List (Option (Validated α))}
    {winner : Validated α} (picked : selector.pick batch = .ok (some winner)) :
    some winner ∈ batch ∧ winner.isValid = true := by
  rcases selector.pickFrom_mem picked with kept | found
  · cases kept
  · exact found

end Selector

end RandomSearch
