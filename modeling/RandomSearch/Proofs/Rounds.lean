import RandomSearch.Proofs.Action

/-!
# Actions done round after round

An action is done on the items of a list, one after the other.  Either it returns on all of them, or
it fails on one after it has returned on all before, and then those that come later are left alone.
-/

namespace RandomSearch

namespace Action

variable {σ τ α β γ κ : Type}

/-- Done on the items of a list, one after the other, an action returns on all of them. -/
inductive Returns (action : β → Action σ γ) : List β → σ → List γ → σ → Prop where
  | nil (before : σ) : Returns action [] before [] before
  | cons {item : β} {rest : List β} {before middle after : σ} {result : γ} {results : List γ} :
      action item before = .ok result middle →
      Returns action rest middle results after →
      Returns action (item :: rest) before (result :: results) after

/-- Done on the items of a list, one after the other, an action returns on these of them, and fails
on the one that is next. -/
structure FailsAfter (action : β → Action σ γ) (items : List β) (before : σ) (done : List β)
    (next : β) (fault : Fault) (after : σ) : Prop where
  split : ∃ later, items = done ++ next :: later
  fails : ∃ results middle, Returns action done before results middle ∧
    action next middle = .error fault after

theorem Returns.length_eq {action : β → Action σ γ} {items : List β} {before after : σ}
    {results : List γ} (returns : Returns action items before results after) :
    results.length = items.length := by
  induction returns with
  | nil before => rfl
  | cons ran _ inductionHypothesis => exact congrArg Nat.succ inductionHypothesis

theorem Returns.map {action : γ → Action σ α} (change : β → γ) {items : List β}
    {before after : σ} {results : List α}
    (returns : Returns (fun item => action (change item)) items before results after) :
    Returns action (items.map change) before results after := by
  induction returns with
  | nil before => exact Returns.nil before
  | cons ran _ inductionHypothesis => exact Returns.cons ran inductionHypothesis

/-- If every call is noted that an action makes when it returns, all calls are noted in order. -/
theorem Returns.noted {action : β → Action σ γ} {noting : β → Action τ γ}
    (attach : List κ → σ → τ) (call : β → κ)
    (notes : ∀ item calls before result after, action item before = .ok result after →
      noting item (attach calls before) = .ok result (attach (calls ++ [call item]) after))
    {items : List β} {before after : σ} {results : List γ}
    (returns : Returns action items before results after) (calls : List κ) :
    Returns noting items (attach calls before) results
      (attach (calls ++ items.map call) after) := by
  induction returns generalizing calls with
  | nil before =>
      rw [List.map_nil, List.append_nil]
      exact Returns.nil _
  | @cons item rest before middle after result results ran _ inductionHypothesis =>
      have later := inductionHypothesis (calls ++ [call item])
      rw [List.append_assoc, List.singleton_append] at later
      exact Returns.cons (notes item calls before result middle ran) later

/-! ## Rounds -/

theorem eachFrom_eq (action : β → Action σ γ) (items : List β) (earlier : List γ) :
    eachFrom action items earlier = do
      let results ← each action items
      return earlier.reverse ++ results := by
  induction items generalizing earlier with
  | nil => exact (congrArg pure (List.append_nil earlier.reverse)).symm
  | cons item rest inductionHypothesis =>
      have unfolded : each action (item :: rest) =
          action item >>= fun result => eachFrom action rest [result] := rfl
      rw [eachFrom, unfolded, bind_assoc]
      apply bind_congr
      intro result
      rw [inductionHypothesis (result :: earlier), inductionHypothesis [result]]
      simp only [bind_assoc, pure_bind, List.reverse_cons, List.reverse_nil, List.nil_append,
        List.append_assoc]

theorem each_cons (action : β → Action σ γ) (item : β) (rest : List β) :
    each action (item :: rest) = do
      let result ← action item
      let results ← each action rest
      return result :: results := by
  rw [each, eachFrom]
  apply bind_congr
  intro result
  exact eachFrom_eq action rest [result]

theorem each_append (action : β → Action σ γ) (items others : List β) :
    each action (items ++ others) = do
      let results ← each action items
      let more ← each action others
      return results ++ more := by
  induction items with
  | nil =>
      have nothing : each action [] = (pure [] : Action σ (List γ)) := rfl
      simp only [List.nil_append, nothing, pure_bind, bind_pure]
  | cons item rest inductionHypothesis =>
      simp only [List.cons_append, each_cons, inductionHypothesis, bind_assoc, pure_bind]

/-- What an action comes to on the first items does not depend on those behind. -/
theorem each_append_eq_ok_iff {action : β → Action σ γ} {items others : List β}
    {before after : σ} {results : List γ} :
    each action (items ++ others) before = .ok results after ↔
      ∃ first middle second, each action items before = .ok first middle ∧
        each action others middle = .ok second after ∧ results = first ++ second := by
  rw [each_append, bind_eq_ok_iff]
  constructor
  · rintro ⟨first, middle, ran, later⟩
    obtain ⟨second, last, ranLater, same⟩ := bind_eq_ok_iff.mp later
    cases same
    exact ⟨first, middle, second, ran, ranLater, rfl⟩
  · rintro ⟨first, middle, second, ran, ranLater, rfl⟩
    exact ⟨first, middle, ran, bind_eq_ok_iff.mpr ⟨second, after, ranLater, rfl⟩⟩

theorem each_map (action : γ → Action σ α) (change : β → γ) (items : List β) :
    each action (items.map change) = each (fun item => action (change item)) items := by
  induction items with
  | nil => rfl
  | cons item rest inductionHypothesis =>
      rw [List.map_cons, each_cons, each_cons, inductionHypothesis]

theorem repeated_eq_each (action : Action σ α) (rounds : Nat) :
    action.repeated rounds = each (fun _ => action) (List.replicate rounds ()) := by
  have same : ∀ earlier, action.repeatFrom rounds earlier =
      eachFrom (fun _ => action) (List.replicate rounds ()) earlier := by
    induction rounds with
    | zero => exact fun earlier => rfl
    | succ rounds inductionHypothesis =>
        intro earlier
        rw [repeatFrom, List.replicate_succ, eachFrom]
        apply bind_congr
        intro result
        exact inductionHypothesis (result :: earlier)
  exact same []

/-- An action that is done on every item returns exactly if it returns on all. -/
theorem each_eq_ok_iff {action : β → Action σ γ} {items : List β} {before after : σ}
    {results : List γ} :
    each action items before = .ok results after ↔ Returns action items before results after := by
  induction items generalizing before results with
  | nil =>
      constructor
      · intro same
        cases same
        exact Returns.nil _
      · intro returns
        cases returns
        rfl
  | cons item rest inductionHypothesis =>
      rw [each_cons, bind_eq_ok_iff]
      constructor
      · rintro ⟨result, middle, ran, later⟩
        obtain ⟨others, last, returned, same⟩ := bind_eq_ok_iff.mp later
        cases same
        exact Returns.cons ran (inductionHypothesis.mp returned)
      · intro returns
        cases returns with
        | cons ran returned =>
            exact ⟨_, _, ran, bind_eq_ok_iff.mpr
              ⟨_, _, inductionHypothesis.mpr returned, rfl⟩⟩

/-- It fails exactly if it fails on one item after it has returned on all before. -/
theorem each_eq_error_iff {action : β → Action σ γ} {items : List β} {before after : σ}
    {fault : Fault} :
    each action items before = .error fault after ↔
      ∃ done next, FailsAfter action items before done next fault after := by
  induction items generalizing before with
  | nil =>
      constructor
      · intro failed
        cases failed
      · rintro ⟨done, next, ⟨later, same⟩, _⟩
        cases done with
        | nil => cases same
        | cons first rest => cases same
  | cons item rest inductionHypothesis =>
      rw [each_cons, bind_eq_error_iff]
      constructor
      · rintro (failed | ⟨result, middle, ran, later⟩)
        · exact ⟨[], item, ⟨rest, rfl⟩, [], before, Returns.nil before, failed⟩
        · rcases bind_eq_error_iff.mp later with failed | ⟨_, _, _, same⟩
          · obtain ⟨done, next, ⟨others, split⟩, results, last, returns, fails⟩ :=
              inductionHypothesis.mp failed
            refine ⟨item :: done, next, ⟨others, ?_⟩, result :: results, last, ?_, fails⟩
            · rw [split, List.cons_append]
            · exact Returns.cons ran returns
          · cases same
      · rintro ⟨done, next, ⟨later, split⟩, results, middle, returns, fails⟩
        cases returns with
        | nil =>
            rw [List.nil_append, List.cons.injEq] at split
            obtain ⟨rfl, rfl⟩ := split
            exact Or.inl fails
        | cons ran returned =>
            rw [List.cons_append, List.cons.injEq] at split
            obtain ⟨rfl, rfl⟩ := split
            refine Or.inr ⟨_, _, ran, bind_eq_error_iff.mpr (Or.inl ?_)⟩
            exact inductionHypothesis.mpr ⟨_, next, ⟨later, rfl⟩, _, _, returned, fails⟩

/-- Every result is what the action gives for one of the items, in some surroundings. -/
theorem Returns.exists_item {action : β → Action σ γ} {items : List β} {before after : σ}
    {results : List γ} (returns : Returns action items before results after) :
    ∀ result ∈ results, ∃ item ∈ items, ∃ first last, action item first = .ok result last := by
  induction returns with
  | nil before => exact List.forall_mem_nil _
  | cons ran _ inductionHypothesis =>
      refine List.forall_mem_cons.mpr ⟨⟨_, List.mem_cons_self, _, _, ran⟩, ?_⟩
      intro result member
      obtain ⟨item, present, given⟩ := inductionHypothesis result member
      exact ⟨item, List.mem_cons_of_mem _ present, given⟩

/-- What holds of every result holds of all results. -/
theorem Returns.forall_mem {Property : γ → Prop} {action : β → Action σ γ} {items : List β}
    {before after : σ} {results : List γ} (returns : Returns action items before results after)
    (each : ∀ item before result after, action item before = .ok result after →
      Property result) : ∀ result ∈ results, Property result := by
  intro result member
  obtain ⟨item, _, first, last, ran⟩ := returns.exists_item result member
  exact each item first result last ran

/-- An action that leaves its surroundings as they are returns on a list exactly if it returns on
each item. -/
theorem succeeds_each_iff {action : β → Action σ γ} {items : List β} {before : σ}
    (keeps : ∀ item ∈ items, (action item).Keeps) :
    (each action items).Succeeds before ↔ ∀ item ∈ items, (action item).Succeeds before := by
  induction items with
  | nil => exact iff_of_true ⟨[], before, rfl⟩ (List.forall_mem_nil _)
  | cons item rest inductionHypothesis =>
      obtain ⟨itemKeeps, restKeeps⟩ := List.forall_mem_cons.mp keeps
      rw [List.forall_mem_cons, ← inductionHypothesis restKeeps]
      constructor
      · rintro ⟨results, after, ran⟩
        cases each_eq_ok_iff.mp ran with
        | cons first others =>
            have same := itemKeeps.eq_of_eq_ok first
            subst same
            exact ⟨⟨_, _, first⟩, _, _, each_eq_ok_iff.mpr others⟩
      · rintro ⟨⟨result, middle, first⟩, results, after, others⟩
        have same := itemKeeps.eq_of_eq_ok first
        subst same
        exact ⟨_, _, each_eq_ok_iff.mpr (.cons first (each_eq_ok_iff.mp others))⟩

end Action

end RandomSearch
