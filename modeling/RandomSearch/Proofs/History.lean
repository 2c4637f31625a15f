import RandomSearch.Proofs.Reduction

/-!
# Searches that fail, and the history

A sequential search that fails leaves the history as it was.  A parallel search comes in two parts:
it gathers what its workers show, which leaves the history alone, and then adds all batches to the
history and selects among the winners.  So it leaves the history as it was exactly if it failed
before that last selection.
-/

namespace RandomSearch

variable {σ α β γ : Type}

namespace Session

/-! ## What leaves the history alone -/

theorem gather_preserves_history {samples workers threads : Value}
    {carryOut : Bool → List SeedSequence → Action σ (List (Outcome α))} :
    (gather samples workers threads carryOut).Preserves history :=
  gather_preserves (fun _ _ => rfl) fun _ _ => inside_preserves fun _ => rfl

end Session

namespace Sampler

/-! ## Sequential searches -/

/-- What a sequential search does before it adds its batch to the history. -/
def passOnStream (sampler : Sampler σ α) (count : Value) : Action (Session σ α) (Outcome α) := do
  let _ ← Action.ofExcept (count.toCount "batch size")
  let keep ← Session.hasHistory
  Session.streaming (sampler.pass count none keep)

theorem search_eq_passOnStream (sampler : Sampler σ α) (count : Value) :
    sampler.search count =
      sampler.passOnStream count >>= fun outcome => do
        Session.remember outcome.batch
        return outcome.best := by
  unfold search passOnStream
  simp only [bind_assoc]

theorem passOnStream_preserves {part : Session σ α → β} {sampler : Sampler σ α} {count : Value}
    (streams : ∀ keep, (Session.streaming (sampler.pass count none keep) :
      Action (Session σ α) (Outcome α)).Preserves part) :
    (sampler.passOnStream count).Preserves part := by
  have counts := Action.keeps_ofExcept (σ := Session σ α) (count.toCount "batch size")
  apply (counts.preserves part).bind
  intro _
  apply (Session.keeps_hasHistory.preserves part).bind
  intro keep
  exact streams keep

theorem passOnStream_preserves_history (sampler : Sampler σ α) (count : Value) :
    (sampler.passOnStream count).Preserves Session.history :=
  passOnStream_preserves fun _ => Session.streaming_preserves fun _ _ _ => rfl

/-- A sequential search that fails leaves the history as it was. -/
theorem history_of_search_eq_error {sampler : Sampler σ α} {count : Value}
    {before after : Session σ α} {fault : Fault}
    (failed : sampler.search count before = .error fault after) :
    after.history = before.history := by
  rw [search_eq_passOnStream] at failed
  rcases Action.bind_eq_error_iff.mp failed with failedBefore | ⟨outcome, middle, _, remembering⟩
  · exact (sampler.passOnStream_preserves_history count).of_eq_error failedBefore
  · cases remembering

/-! ## Parallel searches -/

section

variable {sampler : Sampler σ α} {samples workers threads : Value}
  {carryOut : Bool → List SeedSequence → Action σ (List (Outcome α))}

/-- Where a parallel search failed: while it gathered outcomes, or in its last selection, with all
batches added to the history. -/
theorem searchParallelBy_eq_error_iff {before after : Session σ α} {fault : Fault} :
    sampler.searchParallelBy samples workers threads carryOut before = .error fault after ↔
      Session.gather samples workers threads carryOut before = .error fault after ∨
        ∃ outcomes middle,
          Session.gather samples workers threads carryOut before = .ok (some outcomes) middle ∧
            ∃ last, sampler.selectWinner outcomes middle.surroundings = .error fault last ∧
              after = { middle with
                history := before.history.map (· ++ outcomes.flatMap Outcome.batch)
                surroundings := last } := by
  rw [searchParallelBy_eq_gather, Action.bind_eq_error_iff]
  apply or_congr Iff.rfl
  constructor
  · intro concluded
    obtain ⟨gathered, middle, ran, concluding⟩ := concluded
    cases gathered with
    | none => cases concluding
    | some outcomes =>
        have same : middle.history = before.history := Session.gather_preserves_history.of_eq_ok ran
        obtain remembering | ⟨_, remembered, remembering, selecting⟩ :=
          Action.bind_eq_error_iff.mp concluding
        · cases remembering
        · cases remembering
          obtain ⟨last, selected, left⟩ := Session.inside_eq_error_iff.mp selecting
          refine ⟨outcomes, middle, ran, last, selected, ?_⟩
          rw [left, ← same]
  · intro selecting
    obtain ⟨outcomes, middle, ran, last, selected, rfl⟩ := selecting
    have same : middle.history = before.history := Session.gather_preserves_history.of_eq_ok ran
    refine ⟨some outcomes, middle, ran, ?_⟩
    apply Action.bind_eq_error_iff.mpr
    right
    refine ⟨(), { middle with
      history := middle.history.map (· ++ outcomes.flatMap Outcome.batch) }, rfl, ?_⟩
    rw [same]
    exact Session.inside_eq_error_iff.mpr ⟨last, selected, rfl⟩

end

/-! ## When the history has grown -/

variable {sampler : Sampler σ α}

theorem selectionsShow_batch (sampler : Sampler σ α) :
    sampler.SelectionsShow true fun outcome => outcome.batch = [] → outcome.best = none := by
  intro worker batch outcome before after finished empty
  obtain ⟨best, middle, found, same⟩ := Action.bind_eq_ok_iff.mp finished
  cases same
  have nothing : batch = [] := empty
  subst nothing
  cases found
  rfl

/-- The last selection cannot fail unless some worker has something to show. -/
theorem flatMap_batch_ne_nil {dispatch : Dispatch} {samples : Value} {seeds : List SeedSequence}
    {outcomes : List (Outcome α)} {before middle first last : σ} {fault : Fault}
    (carried : sampler.carryOut dispatch samples true seeds before = .ok outcomes middle)
    (failed : sampler.selectWinner outcomes first = .error fault last) :
    outcomes.flatMap Outcome.batch ≠ [] := by
  intro empty
  have bests : ∀ outcome ∈ outcomes, outcome.best = none := by
    intro outcome member
    have shows := sampler.selectionsShow_batch.carryOut carried outcome member
    exact shows (List.flatMap_eq_nil_iff.mp empty outcome member)
  have winners : outcomes.filterMap Outcome.best = [] := List.filterMap_eq_nil_iff.mpr bests
  unfold selectWinner at failed
  rw [winners] at failed
  cases failed

/-- A sequential search that fails leaves the history as it was.  A parallel search that fails does
so too, whoever carries out its tasks, unless it is the last selection that fails: then it has added
all batches of its workers.  So the history is what it was exactly if the search failed before its
last selection. -/
theorem history_of_failed {before after : Session σ α} {fault : Fault}
    {earlier : List (Validated α)} (kept : before.history = some earlier) :
    (∀ count, sampler.search count before = .error fault after →
        after.history = some earlier) ∧
      ∀ samples workers threads,
        (∀ carryOut, sampler.searchParallelBy samples workers threads carryOut before =
            .error fault after →
          (Session.gather samples workers threads carryOut before = .error fault after ∧
              after.history = some earlier) ∨
            ∃ outcomes middle last,
              Session.gather samples workers threads carryOut before =
                  .ok (some outcomes) middle ∧
                sampler.selectWinner outcomes middle.surroundings = .error fault last ∧
                  after.history = some (earlier ++ outcomes.flatMap Outcome.batch)) ∧
          ∀ dispatch, sampler.searchParallelOn samples workers threads dispatch before =
              .error fault after →
            (after.history = some earlier ↔
              Session.gather samples workers threads (sampler.carryOut dispatch samples) before =
                .error fault after) := by
  have atomic : ∀ {samples workers threads : Value}
      {carryOut : Bool → List SeedSequence → Action σ (List (Outcome α))},
      Session.gather samples workers threads carryOut before = .error fault after →
        after.history = some earlier :=
    fun failed => (Session.gather_preserves_history.of_eq_error failed).trans kept
  refine ⟨fun count failed => ?_, fun samples workers threads => ⟨?_, ?_⟩⟩
  · exact (history_of_search_eq_error failed).trans kept
  · intro carryOut failed
    rcases searchParallelBy_eq_error_iff.mp failed with failedBefore | failedLast
    · exact Or.inl ⟨failedBefore, atomic failedBefore⟩
    · obtain ⟨outcomes, middle, gathered, last, selected, rfl⟩ := failedLast
      right
      refine ⟨outcomes, middle, last, gathered, selected, ?_⟩
      rw [kept]
      rfl
  · intro dispatch failed
    refine ⟨fun unchanged => ?_, atomic⟩
    rcases searchParallelBy_eq_error_iff.mp failed with failedBefore | failedLast
    · exact failedBefore
    · obtain ⟨outcomes, middle, gathered, last, selected, rfl⟩ := failedLast
      rcases Session.of_gather_eq_ok gathered with ⟨_, none, _⟩ | workersReturned
      · cases none
      obtain ⟨count, seeds, later, shown, reached, _, _, carried, same, _⟩ := workersReturned
      cases same
      rw [kept] at carried unchanged
      have nothing : outcomes.flatMap Outcome.batch = [] :=
        List.append_right_eq_self.mp (Option.some.inj unchanged)
      exact absurd nothing (flatMap_batch_ne_nil carried selected)

/-! ## Goals that cannot be compared -/

/-- A sampler that draws a candidate whose goal is a number, and then one whose goal is a text. -/
def mixed : Sampler Nat Record :=
  let items : List Listed := [.ok ⟨[(goalAttribute, .int 1)]⟩, .ok ⟨[(goalAttribute, .str "two")]⟩]
  ⟨(Problem.ofDraw (Listed.drawInTurn items) .usual).counted, []⟩

/-- Each of two workers selects the one candidate it has drawn, but no winner can be selected, and
both candidates stand in the history. -/
theorem searchParallelOn_mixed_grows :
    ∃ fault after,
      mixed.searchParallelOn (.int 1) (.int 2) .null (.whole .threads)
          ⟨.value (.int 7), none, some [], 0⟩ = .error fault after ∧
        after.history = some [⟨⟨[(goalAttribute, .int 1)]⟩, []⟩,
          ⟨⟨[(goalAttribute, .str "two")]⟩, []⟩] :=
  ⟨_, _, rfl, rfl⟩

theorem history_of_failed_mixed :
    ∃ fault after,
      mixed.searchParallelOn (.int 1) (.int 2) .null (.whole .threads)
          ⟨.value (.int 7), none, some [], 0⟩ = .error fault after ∧
        after.history ≠ some [] := by
  obtain ⟨fault, after, failed⟩ : ∃ fault after,
      mixed.searchParallelOn (.int 1) (.int 2) .null (.whole .threads)
        ⟨.value (.int 7), none, some [], 0⟩ = .error fault after := ⟨_, _, rfl⟩
  refine ⟨fault, after, failed, fun unchanged => ?_⟩
  have failedBefore := (((history_of_failed rfl).2 _ _ _).2 _ failed).mp unchanged
  cases failedBefore

end Sampler

end RandomSearch
