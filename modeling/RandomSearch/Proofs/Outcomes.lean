import RandomSearch.Proofs.Pass

/-!
# What workers show

Whatever the dispatch, and whatever the workers do to each other's surroundings, a worker that
returns has selected from its batch as the last thing it did.  So a property of all that selections
from batches come to is one of all outcomes.
-/

namespace RandomSearch

variable {σ α : Type}

/-- If the stage is the last one and there is an outcome, it has the given property. -/
def Stage.Shows (Property : Outcome α → Prop) (stage : Stage α) : Prop :=
  ∀ outcome, stage = .ended (.ok outcome) → Property outcome

namespace Sampler

/-- All that selections from batches come to has the given property. -/
def SelectionsShow (sampler : Sampler σ α) (keep : Bool) (Property : Outcome α → Prop) : Prop :=
  ∀ worker batch outcome before after,
    sampler.finishBatch worker keep batch before = .ok outcome after → Property outcome

namespace SelectionsShow

variable {sampler : Sampler σ α} {keep : Bool} {Property : Outcome α → Prop}

theorem finish (selections : sampler.SelectionsShow keep Property) {worker : Option Int}
    {stage : Stage α} {outcome : Outcome α} {before after : σ}
    (shows : stage.Shows Property)
    (finished : sampler.finish worker keep stage before = .ok outcome after) :
    Property outcome := by
  have waiting : ∀ {candidates : List α} {validated : List (Validated α)} {middle : σ},
      sampler.finishWaiting worker keep candidates validated middle = .ok outcome after →
        Property outcome := by
    intro candidates validated middle later
    obtain ⟨batch, last, _, rest⟩ := Action.bind_eq_ok_iff.mp later
    exact selections worker batch outcome last after rest
  cases stage with
  | drawing left generator drawn =>
      obtain ⟨candidates, middle, _, rest⟩ := Action.bind_eq_ok_iff.mp finished
      exact waiting rest
  | validating candidates validated => exact waiting finished
  | judging candidate verdicts candidates validated =>
      obtain ⟨others, middle, _, rest⟩ := Action.bind_eq_ok_iff.mp finished
      exact waiting rest
  | selecting batch => exact selections worker batch outcome before after finished
  | ended result =>
      have same := (Action.ofExcept_eq_ok_iff.mp finished).1
      exact shows outcome (congrArg Stage.ended same)

theorem advance (selections : sampler.SelectionsShow keep Property) {worker : Option Int}
    {stage : Stage α} (shows : stage.Shows Property) (surroundings : σ) :
    (sampler.advance worker keep stage surroundings).1.Shows Property := by
  intro outcome same
  -- What is left after the step is the outcome itself.
  have finished : sampler.finish worker keep (sampler.advance worker keep stage surroundings).1
      (sampler.advance worker keep stage surroundings).2 =
        .ok outcome (sampler.advance worker keep stage surroundings).2 := by
    rw [same]
    rfl
  rw [finish_advance] at finished
  exact selections.finish shows finished

theorem shows_start (samples : Value) (seed : SeedSequence) :
    (Stage.start samples seed).Shows Property := by
  intro outcome same
  unfold Stage.start at same
  split at same
  · cases same
  · cases same

theorem workerTask (selections : sampler.SelectionsShow keep Property) {samples : Value}
    {worker : Nat} {seed : SeedSequence} {outcome : Outcome α} {before after : σ}
    (ran : sampler.workerTask samples keep worker seed before = .ok outcome after) :
    Property outcome := by
  rw [← finish_start] at ran
  exact selections.finish (shows_start samples seed) ran

theorem carryOut (selections : sampler.SelectionsShow keep Property) {dispatch : Dispatch}
    {samples : Value} {seeds : List SeedSequence} {outcomes : List (Outcome α)}
    {before after : σ}
    (carried : sampler.carryOut dispatch samples keep seeds before = .ok outcomes after) :
    ∀ outcome ∈ outcomes, Property outcome := by
  cases dispatch with
  | whole executor =>
      exact Executor.runAll_earned (fun _ _ _ _ _ ran => selections.workerTask ran) carried
  | inTurns turns =>
      have kept : ∀ (task : Nat × Stage α) (surroundings : σ), task.2.Shows Property →
          ((sampler.passWork keep).advance task surroundings).1.2.Shows Property :=
        fun task surroundings shows => selections.advance shows surroundings
      have earns : ∀ (task : Nat × Stage α) (first : σ) (result : Outcome α) (last : σ),
          task.2.Shows Property →
            (sampler.passWork keep).finish task first = .ok result last → Property result :=
        fun task first result last shows ran => selections.finish shows ran
      refine Work.runInTurns_earned kept earns (fun task member => ?_) carried
      obtain ⟨⟨seed, worker⟩, _, rfl⟩ := List.mem_map.mp member
      exact shows_start samples seed

end SelectionsShow

end Sampler

end RandomSearch
