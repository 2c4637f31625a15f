import RandomSearch.Linear.Problem
import RandomSearch.Proofs.Batches
import RandomSearch.Proofs.Course

/-!
# Splitting a sequential search

The samples of a sequential search can be drawn by two searches, the second of which goes on with
the stream and the history that the first has left.  A draw changes nothing but the stream, so that
it makes no difference whether constraints are asked between two draws, and a selection from the two
winners is one from all entries.
-/

namespace RandomSearch

variable {σ α β γ : Type}

/-! ## Code that knows only the stream -/

namespace Action

theorem onFirst_bind (action : Action γ α) (next : α → Action γ β) :
    (onFirst (action >>= next) : Action (γ × σ) β) =
      onFirst action >>= fun result => onFirst (next result) := by
  funext ⟨first, surroundings⟩
  simp only [onFirst, bind_apply]
  cases action first with
  | ok result middle => rfl
  | error fault middle => rfl

theorem onFirst_ofExcept (given : Except Fault α) :
    (onFirst (ofExcept given) : Action (γ × σ) α) = ofExcept given := by
  cases given with
  | ok result => rfl
  | error fault => rfl

theorem returns_onFirst_iff {action : β → Action γ α} {items : List β} {first moved : γ}
    {before after : σ} {results : List α} :
    Returns (fun item => (onFirst (action item) : Action (γ × σ) α)) items (first, before) results
        (moved, after) ↔
      Returns action items first results moved ∧ after = before := by
  induction items generalizing first results with
  | nil =>
      constructor
      · intro returns
        cases returns
        exact ⟨.nil _, rfl⟩
      · rintro ⟨returns, rfl⟩
        cases returns
        exact .nil _
  | cons item rest inductionHypothesis =>
      constructor
      · intro returns
        cases returns with
        | @cons _ _ _ middle _ _ _ ran later =>
            obtain ⟨next, same⟩ := middle
            obtain ⟨here, rfl⟩ := onFirst_eq_ok_iff.mp ran
            obtain ⟨others, unchanged⟩ := inductionHypothesis.mp later
            exact ⟨.cons here others, unchanged⟩
      · rintro ⟨returns, rfl⟩
        cases returns with
        | cons here others =>
            exact .cons (onFirst_eq_ok_iff.mpr ⟨here, rfl⟩) (inductionHypothesis.mpr ⟨others, rfl⟩)

end Action

/-- A sampler draws with an action that knows the stream and nothing else. -/
def Sampler.DrawsWith (sampler : Sampler σ α) (step : Action Generator α) : Prop :=
  sampler.problem.draw = Action.onFirst step

/-- How a linear problem draws from a stream. -/
def LinearProblem.drawAlone (problem : LinearProblem) : Action Generator Mix := do
  Action.ofExcept problem.checkBox
  let values ← Action.step (Generator.drawBox problem.lower problem.upper)
  Action.ofExcept (problem.mixOf (values.map .int))

/-- Whatever its constraints are, a linear problem knows only the stream when it draws. -/
theorem LinearProblem.drawsWith_drawAlone (problem : LinearProblem)
    (constraints : List (Constraint σ Mix)) :
    (Sampler.mk problem.toProblem constraints).DrawsWith problem.drawAlone := by
  rw [Sampler.DrawsWith, drawAlone, Action.onFirst_bind, Action.onFirst_ofExcept]
  simp only [Action.onFirst_bind, Action.onFirst_ofExcept]
  rfl

namespace Sampler

variable {sampler : Sampler σ α} {step : Action Generator α} {selector : Selector α}

theorem best_eq_ok_iff (selects : sampler.SelectsWith selector)
    {batch : List (Option (Validated α))} {worker : Option Int} {best : Option (Validated α)}
    {before after : σ} :
    sampler.best batch worker before = .ok best after ↔
      selector.pick batch = .ok best ∧ after = before := by
  cases batch with
  | nil =>
      constructor
      · intro same
        cases same
        exact ⟨rfl, rfl⟩
      · rintro ⟨picked, rfl⟩
        cases picked
        rfl
  | cons item rest =>
      have asked : sampler.best (item :: rest) worker =
          (sampler.problem.select (item :: rest)).inPhase .selecting worker := rfl
      rw [asked, Action.inPhase_eq_ok_iff, selects, Action.ofExcept_eq_ok_iff,
        eq_comm (a := before)]

/-! ## Searches taken apart -/

theorem each_validate_eq_ok_iff {candidates : List α} {before after : σ}
    {batch : List (Validated α)} :
    Action.each (Constraint.validate sampler.constraints) candidates before = .ok batch after ↔
      ∃ verdicts, Action.each Question.ask (sampler.questions candidates) before =
        .ok verdicts after ∧ batch = sampler.judged candidates verdicts := by
  rw [each_validate_apply, questions]
  cases Action.each Question.ask (candidates.flatMap (Question.about sampler.constraints))
      before with
  | ok verdicts last =>
      constructor
      · intro same
        cases same
        exact ⟨verdicts, rfl, rfl⟩
      · rintro ⟨_, ⟨rfl, rfl⟩, rfl⟩
        rfl
  | error fault last => simp

/-- What a sequential search finds and leaves, if draws know only the stream. -/
theorem search_eq_ok_iff (draws : sampler.DrawsWith step) (selects : sampler.SelectsWith selector)
    {count : Nat} {seed : Seed} {generator : Generator} {history : List (Validated α)}
    {surroundings : σ} {after : Session σ α} {winner : Option (Validated α)} :
    sampler.search (.int count) ⟨seed, some generator, some history, surroundings⟩ =
        .ok winner after ↔
      ∃ candidates moved batch last,
        Action.each (fun _ => step) (List.replicate count ()) generator = .ok candidates moved ∧
          Action.each (Constraint.validate sampler.constraints) candidates surroundings =
            .ok batch last ∧
          selector.pick (batch.map some) = .ok winner ∧
          after = ⟨seed, some moved, some (history ++ batch), last⟩ := by
  rw [search_apply]
  constructor
  · intro searched
    split at searched
    · rename_i outcome moved last passed
      cases searched
      obtain ⟨candidates, _, drawn, verdicts, middle, best, final, drew, asked, found, rfl, same⟩ :=
        pass_eq_ok_iff.mp passed
      cases same
      rw [Draws, draws] at drew
      obtain ⟨steps, rfl⟩ := Action.returns_onFirst_iff.mp drew
      obtain ⟨picked, rfl⟩ := (best_eq_ok_iff selects).mp found
      exact ⟨candidates, moved, _, _, Action.each_eq_ok_iff.mpr steps,
        each_validate_eq_ok_iff.mpr ⟨verdicts, asked, rfl⟩, picked, rfl⟩
    · cases searched
  · rintro ⟨candidates, moved, batch, last, steps, validates, picked, rfl⟩
    obtain ⟨verdicts, asked, rfl⟩ := each_validate_eq_ok_iff.mp validates
    have drew : sampler.Draws count (generator, surroundings) candidates (moved, surroundings) := by
      rw [Draws, draws]
      exact Action.returns_onFirst_iff.mpr ⟨Action.each_eq_ok_iff.mp steps, rfl⟩
    have found : sampler.best ((sampler.judged candidates verdicts).map some) none last =
        .ok winner last := (best_eq_ok_iff selects).mpr ⟨picked, rfl⟩
    rw [pass_eq_ok_iff.mpr ⟨candidates, moved, surroundings, verdicts, last, winner, last, drew,
      asked, found, rfl, rfl⟩]
    rfl

end Sampler

/-! ## Two selections -/

/-- Missing entries are passed over. -/
theorem Selector.pick_filterMap_id (selector : Selector α) (batch : List (Option (Validated α))) :
    selector.pick ((batch.filterMap id).map some) = selector.pick batch := by
  rw [pick_eligible, pick_eligible selector batch]
  congr 2
  rw [eligible, eligible, List.filterMap_map, List.filterMap_filterMap]
  refine List.filterMap_congr fun item _ => ?_
  cases item with
  | none => rfl
  | some entry => rfl

/-- Where no goal is undefined, what is selected from two batches together is selected from the two
that are selected from each. -/
theorem Selector.pick_append_of_hasNumber {selector : Selector α}
    {entries others : List (Validated α)}
    (numbers : ∀ entry ∈ entries ++ others, entry.isValid = true → selector.HasNumber entry)
    {first second : Option (Validated α)} (picked : selector.pick (entries.map some) = .ok first)
    (pickedSecond : selector.pick (others.map some) = .ok second) :
    selector.pick ((entries ++ others).map some) = selector.pick [first, second] := by
  have leads := pick_of_hasNumber fun entry member =>
    numbers entry (List.mem_append_left others member)
  have secondLeads := pick_of_hasNumber fun entry member =>
    numbers entry (List.mem_append_right entries member)
  cases leads.symm.trans picked
  cases secondLeads.symm.trans pickedSecond
  have leaders : ∀ entry ∈ [entries, others].filterMap selector.leader,
      entry.isValid = true → selector.HasNumber entry := by
    intro entry member
    obtain ⟨batch, present, led⟩ := List.mem_filterMap.mp member
    refine numbers entry ?_
    rcases List.mem_pair.mp present with rfl | rfl
    · exact List.mem_append_left _ (mem_of_leader led).1
    · exact List.mem_append_right _ (mem_of_leader led).1
  have together : selector.leader (entries ++ others) =
      selector.leader ([entries, others].filterMap selector.leader) := by
    have flattened := selector.leader_flatMap id [entries, others]
    rwa [List.flatMap_id, List.flatten_cons, List.flatten_singleton] at flattened
  calc
    selector.pick ((entries ++ others).map some)
        = selector.pick (([entries, others].filterMap selector.leader).map some) := by
      rw [pick_of_hasNumber numbers, together, pick_of_hasNumber leaders]
    _ = selector.pick [selector.leader entries, selector.leader others] := by
      rw [← pick_filterMap_id selector [selector.leader entries, selector.leader others]]
      exact congrArg (fun batch => selector.pick (batch.map some))
        List.filterMap_map.symm

namespace Sampler

variable {sampler : Sampler σ α} {step : Action Generator α} {selector : Selector α}

/-- A sequential search returns exactly if two return of which the first draws some of its samples
and the second goes on with the rest.  It leaves what they leave: the stream, the history, and all
else.  What it finds is selected from what they find. -/
theorem search_add_eq_ok_iff (draws : sampler.DrawsWith step)
    (selects : sampler.SelectsWith selector) {count more : Nat} {seed : Seed}
    {generator : Generator} {history : List (Validated α)} {surroundings : σ}
    {after : Session σ α}
    (numbers : ∀ added, after.history = some (history ++ added) → ∀ entry ∈ added,
      entry.isValid = true → selector.HasNumber entry)
    {winner : Option (Validated α)} :
    sampler.search (.int (count + more)) ⟨seed, some generator, some history, surroundings⟩ =
        .ok winner after ↔
      ∃ first middle second,
        sampler.search (.int count) ⟨seed, some generator, some history, surroundings⟩ =
          .ok first middle ∧
        sampler.search (.int more) middle = .ok second after ∧
        selector.pick [first, second] = .ok winner := by
  -- All draws come before all questions, so that both lists can be cut at the same place.
  rw [← Int.natCast_add, search_eq_ok_iff draws selects]
  constructor
  · rintro ⟨candidates, moved, batch, last, steps, validates, picked, rfl⟩
    rw [← List.replicate_append_replicate] at steps
    obtain ⟨drawn, cut, others, firstSteps, laterSteps, rfl⟩ :=
      Action.each_append_eq_ok_iff.mp steps
    obtain ⟨entries, middle, rest, firstValidates, laterValidates, rfl⟩ :=
      Action.each_append_eq_ok_iff.mp validates
    have allNumbers := numbers _ rfl
    have firstPicked := Selector.pick_of_hasNumber fun entry member =>
      allNumbers entry (List.mem_append_left rest member)
    have laterPicked := Selector.pick_of_hasNumber fun entry member =>
      allNumbers entry (List.mem_append_right entries member)
    refine ⟨_, _, _, (search_eq_ok_iff draws selects).mpr
      ⟨drawn, cut, entries, middle, firstSteps, firstValidates, firstPicked, rfl⟩,
      (search_eq_ok_iff draws selects).mpr
        ⟨others, moved, rest, last, laterSteps, laterValidates, laterPicked, ?_⟩, ?_⟩
    · rw [List.append_assoc]
    · rw [← Selector.pick_append_of_hasNumber allNumbers firstPicked laterPicked]
      exact picked
  · rintro ⟨first, middle, second, searched, searchedOn, picked⟩
    obtain ⟨drawn, cut, entries, between, firstSteps, firstValidates, firstPicked, rfl⟩ :=
      (search_eq_ok_iff draws selects).mp searched
    obtain ⟨others, moved, rest, last, laterSteps, laterValidates, laterPicked, rfl⟩ :=
      (search_eq_ok_iff draws selects).mp searchedOn
    have allNumbers := numbers (entries ++ rest) (by rw [List.append_assoc])
    refine ⟨drawn ++ others, moved, entries ++ rest, last, ?_, ?_, ?_, by rw [List.append_assoc]⟩
    · rw [← List.replicate_append_replicate]
      exact Action.each_append_eq_ok_iff.mpr
        ⟨drawn, cut, others, firstSteps, laterSteps, rfl⟩
    · exact Action.each_append_eq_ok_iff.mpr
        ⟨entries, between, rest, firstValidates, laterValidates, rfl⟩
    · rw [Selector.pick_append_of_hasNumber allNumbers firstPicked laterPicked]
      exact picked

/-- Three points are drawn, of which only the last has a sum that is not too large.  So nothing is
found in the first part, and the second part finds what is found at one go. -/
theorem search_add_eq_ok_iff_sums :
    let stream := Generator.ofSequence (SeedSequence.ofNat 7)
    let drawn (generator : Generator) := (generator.drawBox [0, -4] [9, 4]).2
    let before : Session Unit (List Int) := ⟨.value .null, some stream, some [], ()⟩
    let left (session : Session Unit (List Int)) := (session.stream,
      session.history.map fun batch => batch.map fun entry => (entry.candidate, entry.isValid))
    ∃ winner after middle second,
      sums.search (.int 3) before = .ok winner after ∧
        sums.search (.int 1) before = .ok none middle ∧
        sums.search (.int 2) middle = .ok second after ∧
        largestSum.pick [none, second] = .ok winner ∧
        winner.map Validated.candidate = some [5, 2] ∧
        left middle = (some (drawn stream), some [([9, 1], false)]) ∧
        left after = (some (drawn (drawn (drawn stream))),
          some [([9, 1], false), ([6, 4], false), ([5, 2], true)]) := by
  intro stream drawn before left
  have draws : sums.DrawsWith (Action.step (Generator.drawBox [0, -4] [9, 4])) := rfl
  obtain ⟨winner, after, returned, found, _⟩ := Session.of_seen_eq_some
    (show Session.seen (sums.search (.int 3) before) =
      some (some [5, 2], some [[9, 1], [6, 4], [5, 2]]) by decide +kernel)
  obtain ⟨first, middle, second, searched, searchedOn, picked⟩ :=
    (@search_add_eq_ok_iff _ _ _ _ _ draws selectsWith_largestSum 1 2 _ _ _ _ after
      (fun _ _ entry _ _ => hasNumber_largestSum entry) winner).mp returned
  obtain ⟨best, _, searchedFirst, nothing, _⟩ := Session.of_seen_eq_some
    (show Session.seen (sums.search (.int 1) before) = some (none, some [[9, 1]]) by
      decide +kernel)
  cases searchedFirst.symm.trans searched
  cases Option.map_eq_none_iff.mp nothing
  refine ⟨winner, after, middle, second, returned, searched, searchedOn, picked, found, ?_, ?_⟩
  · rw [← Action.after_of_eq_ok searched]
    decide +kernel
  · rw [← Action.after_of_eq_ok returned]
    decide +kernel

end Sampler

end RandomSearch
