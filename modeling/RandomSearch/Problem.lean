import RandomSearch.Random.Draw
import RandomSearch.Selector

/-!
# Problems

A problem draws candidates from a random stream and selects the best of a batch of validated ones.
-/

namespace RandomSearch

/-- How candidates are drawn, and how the best of a batch is selected. -/
structure Problem (σ α : Type) where
  draw : Action (Generator × σ) α
  select : List (Option (Validated α)) → Action σ (Option (Validated α))

namespace Problem

variable {σ α : Type}

def ofDraw (draw : Action (Generator × σ) α) (selector : Selector α) : Problem σ α :=
  ⟨draw, fun batch => Action.ofExcept (selector.pick batch)⟩

end Problem

end RandomSearch
