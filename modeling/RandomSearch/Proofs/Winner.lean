import RandomSearch.Proofs.Fallback
import RandomSearch.Proofs.Reduction
import RandomSearch.Proofs.Verdicts

/-!
# What a search can find

Whatever an executor does with the tasks of the workers, and wherever a search falls back to, what
it finds has been drawn from some stream and judged by all constraints, and all are in favour of it.
-/

namespace RandomSearch

variable {σ α : Type}

namespace Sampler

/-- An entry that has been drawn and judged, with all verdicts in favour. -/
structure IsFinding (sampler : Sampler σ α) (entry : Validated α) : Prop where
  drawn : ∃ start last, sampler.problem.draw start = .ok entry.candidate last
  judged : ∃ before after,
    Constraint.validate sampler.constraints entry.candidate before = .ok entry after
  isValid : entry.isValid = true

variable {sampler : Sampler σ α} {selector : Selector α}

theorem isFinding_of_pass (selects : sampler.SelectsWith selector) {count : Value}
    {worker : Option Int} {keep : Bool} {start last : Generator × σ} {outcome : Outcome α}
    (passed : sampler.pass count worker keep start = .ok outcome last) :
    ∀ entry, outcome.best = some entry → sampler.IsFinding entry := by
  intro entry found
  obtain ⟨candidates, ⟨generator, middle⟩, drew, passed⟩ := Action.bind_eq_ok_iff.mp passed
  obtain ⟨batch, ⟨_, between⟩, judging, passed⟩ := Action.bind_eq_ok_iff.mp passed
  obtain ⟨best, _, selecting, same⟩ := Action.bind_eq_ok_iff.mp passed
  cases same
  obtain ⟨_, selected, _⟩ := Action.onSecond_eq_ok_iff.mp selecting
  obtain ⟨_, judged, _⟩ := Action.onSecond_eq_ok_iff.mp judging
  have picked := pick_of_best selects selected
  change best = some entry at found
  subst found
  obtain ⟨present, valid⟩ := selector.pick_mem picked
  obtain ⟨_, member, same⟩ := List.mem_map.mp present
  cases same
  have returns := Action.each_eq_ok_iff.mp (Action.inPhase_eq_ok_iff.mp judged)
  obtain ⟨candidate, candidateMember, before, after, validates⟩ := returns.exists_item _ member
  obtain ⟨rfl, _⟩ := Constraint.validate_shape validates
  obtain ⟨rounds, _, _, drawing⟩ := Action.bind_eq_ok_iff.mp drew
  rw [Action.inPhase_eq_ok_iff, Action.repeated_eq_each, Action.each_eq_ok_iff] at drawing
  obtain ⟨_, _, drawn⟩ := drawing.exists_item _ candidateMember
  exact ⟨drawn, ⟨before, after, validates⟩, valid⟩

theorem isFinding_of_searchParallel (selects : sampler.SelectsWith selector)
    {samples workers threads : Value} {executor : Executor} {before after : Session σ α}
    {winner : Validated α}
    (returned : sampler.searchParallel samples workers threads executor before =
      .ok (some winner) after) : sampler.IsFinding winner := by
  rcases of_searchParallelBy_eq_ok returned with ⟨_, none, _⟩ | ran
  · cases none
  · obtain ⟨_, _, _, outcomes, _, _, _, _, carried, selected, _⟩ := ran
    obtain ⟨present, _⟩ := selector.pick_mem (pick_of_best selects selected)
    obtain ⟨_, member, same⟩ := List.mem_map.mp present
    cases same
    obtain ⟨outcome, shown, best⟩ := List.mem_filterMap.mp member
    -- An executor can drop outcomes and exchange them, but not make up any.
    have findings : ∀ outcome ∈ outcomes, ∀ entry, outcome.best = some entry →
        sampler.IsFinding entry := by
      refine Executor.runAll_earned (fun position seed first outcome last ran => ?_) carried
      obtain ⟨_, passed⟩ := Action.withFirst_eq_ok_iff.mp ran
      exact isFinding_of_pass selects passed
    exact findings outcome shown winner best

end Sampler

namespace Search

variable {search : Search} {pool : ProcessPool}

/-- On the pool or on threads, what is found has been found on some executor. -/
theorem exists_runOn_of_best {before after : Session Unit Mix × List Text}
    {found : Option (Validated Mix)} (searched : search.best pool before = .ok found after) :
    ∃ executor first last, search.runOn executor first = .ok found last := by
  have onExecutor : ∀ {executor : Executor} {start : Session Unit Mix × List Text},
      Action.onFirst (search.runOn executor) start = .ok found after →
        ∃ executor first last, search.runOn executor first = .ok found last :=
    fun ran => ⟨_, _, _, (Action.onFirst_eq_ok_iff.mp ran).1⟩
  unfold best at searched
  split at searched
  · obtain ⟨attempted, middle, tried, searched⟩ := Action.bind_eq_ok_iff.mp searched
    cases attempted with
    | error fault =>
        dsimp only at searched
        split at searched
        · cases searched
        · obtain ⟨_, _, _, searched⟩ := Action.bind_eq_ok_iff.mp searched
          exact onExecutor searched
    | ok result =>
        cases searched
        obtain ⟨onPool, _⟩ := Action.onFirst_eq_ok_iff.mp tried
        rw [Action.attempt_apply] at onPool
        obtain ⟨last, ran⟩ := Action.outcome_eq_ok_iff.mp (EStateM.Result.ok.inj onPool).1
        rw [runOnPool] at ran
        cases refusal : pool.refusal with
        | some fault =>
            rw [refusal] at ran
            cases ran
        | none =>
            rw [refusal] at ran
            exact ⟨_, _, _, ran⟩
  · exact onExecutor searched

/-- What a search sums up as its best has been found by its sampler. -/
theorem isFinding_of_run {config : Configuration} {elapsed : Nat} {lines last : List Text}
    {summary : Summary} (ran : run config pool elapsed lines = .ok summary last)
    {winner : Validated Mix} (found : summary.best = some winner) :
    ∃ search total, ofConfig config = .ok search ∧
      search.summarise total (some winner) = .ok summary ∧ search.sampler.IsFinding winner := by
  obtain ⟨search, _, best, _, _, total, _, made, _, searched, _, _, summed, _⟩ :=
    run_eq_ok_iff.mp ran
  rw [best_of_summarise summed] at found
  subst found
  obtain ⟨_, _, _, returned⟩ := exists_runOn_of_best searched
  exact ⟨search, total, made, summed, Sampler.isFinding_of_searchParallel (fun _ => rfl) returned⟩

end Search

end RandomSearch
