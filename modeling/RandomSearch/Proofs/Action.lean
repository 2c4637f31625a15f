import RandomSearch.Action

/-!
# Running actions

What an action comes to is its result or its fault, together with the surroundings it leaves.  Most
proofs about searches go through these two sides: an action that succeeds is taken apart step by
step, and an action that leaves its surroundings as they are is as good as a plain result.
-/

namespace RandomSearch

theorem except_bind_eq_ok_iff {ε α β : Type} {given : Except ε α} {next : α → Except ε β}
    {result : β} :
    (given >>= next) = .ok result ↔ ∃ first, given = .ok first ∧ next first = .ok result := by
  cases given with
  | ok first =>
      constructor
      · intro later
        exact ⟨first, rfl, later⟩
      · rintro ⟨_, ⟨rfl⟩, later⟩
        exact later
  | error fault =>
      constructor
      · intro later
        cases later
      · rintro ⟨_, same, _⟩
        cases same

theorem except_bind_eq_error_iff {ε α β : Type} {given : Except ε α}
    {next : α → Except ε β} {fault : ε} :
    (given >>= next) = .error fault ↔
      given = .error fault ∨ ∃ first, given = .ok first ∧ next first = .error fault := by
  cases given with
  | ok first =>
      constructor
      · intro later
        exact Or.inr ⟨first, rfl, later⟩
      · rintro (same | ⟨_, ⟨rfl⟩, later⟩)
        · cases same
        · exact later
  | error present =>
      constructor
      · intro same
        cases same
        exact Or.inl rfl
      · rintro (same | ⟨_, same, _⟩)
        · cases same
          rfl
        · cases same

/-- A fault is not a result. -/
theorem not_exists_error_eq_ok {ε α : Type} (fault : ε) :
    ¬ ∃ result, (.error fault : Except ε α) = .ok result := by
  rintro ⟨_, same⟩
  cases same

namespace Action

variable {σ γ α β : Type}

/-- The result or the fault of an action. -/
def outcome (action : Action σ α) (surroundings : σ) : Except Fault α :=
  match action surroundings with
  | .ok result _ => .ok result
  | .error fault _ => .error fault

/-- The surroundings that an action leaves. -/
def after (action : Action σ α) (surroundings : σ) : σ :=
  match action surroundings with
  | .ok _ after => after
  | .error _ after => after

theorem after_of_eq_ok {action : Action σ α} {before last : σ} {result : α}
    (ran : action before = .ok result last) : action.after before = last := by
  unfold after
  rw [ran]

theorem after_of_eq_error {action : Action σ α} {before last : σ} {fault : Fault}
    (ran : action before = .error fault last) : action.after before = last := by
  unfold after
  rw [ran]

/-! ## Taking actions apart -/

theorem bind_apply (action : Action σ α) (next : α → Action σ β) (surroundings : σ) :
    (action >>= next) surroundings =
      match action surroundings with
      | .ok result after => next result after
      | .error fault after => .error fault after := by
  simp only [bind, EStateM.bind]
  cases action surroundings with
  | ok result middle => rfl
  | error fault middle => rfl

@[simp]
theorem pure_apply (result : α) (surroundings : σ) :
    (pure result : Action σ α) surroundings = .ok result surroundings :=
  rfl

@[simp]
theorem throw_apply (fault : Fault) (surroundings : σ) :
    (throw fault : Action σ α) surroundings = .error fault surroundings :=
  rfl

theorem bind_eq_ok_iff {action : Action σ α} {next : α → Action σ β} {surroundings last : σ}
    {result : β} :
    (action >>= next) surroundings = .ok result last ↔
      ∃ first middle,
        action surroundings = .ok first middle ∧ next first middle = .ok result last := by
  rw [bind_apply]
  cases action surroundings with
  | ok first middle =>
      constructor
      · intro later
        exact ⟨first, middle, rfl, later⟩
      · rintro ⟨_, _, ⟨rfl, rfl⟩, later⟩
        exact later
  | error fault middle => simp

theorem bind_eq_error_iff {action : Action σ α} {next : α → Action σ β} {surroundings last : σ}
    {fault : Fault} :
    (action >>= next) surroundings = .error fault last ↔
      action surroundings = .error fault last ∨
        ∃ first middle,
          action surroundings = .ok first middle ∧ next first middle = .error fault last := by
  rw [bind_apply]
  cases action surroundings with
  | ok first middle =>
      constructor
      · intro later
        exact Or.inr ⟨first, middle, rfl, later⟩
      · rintro (same | ⟨_, _, ⟨rfl, rfl⟩, later⟩)
        · cases same
        · exact later
  | error present middle => simp

theorem ofExcept_bind (given : Except Fault α) (next : α → Except Fault β) :
    (ofExcept (given >>= next) : Action σ β) =
      ofExcept given >>= fun result => ofExcept (next result) := by
  cases given with
  | ok result => rfl
  | error fault => rfl

theorem ofExcept_eq_ok_iff {given : Except Fault α} {surroundings after : σ} {result : α} :
    (ofExcept given : Action σ α) surroundings = .ok result after ↔
      given = .ok result ∧ surroundings = after := by
  cases given with
  | ok value => simp [ofExcept]
  | error fault => simp [ofExcept]

theorem ofExcept_eq_error_iff {given : Except Fault α} {surroundings after : σ} {fault : Fault} :
    (ofExcept given : Action σ α) surroundings = .error fault after ↔
      given = .error fault ∧ surroundings = after := by
  cases given with
  | ok value => simp [ofExcept]
  | error present => simp [ofExcept]

theorem inPhase_eq_ok_iff {phase : Phase} {worker : Option Int} {action : Action σ α}
    {surroundings after : σ} {result : α} :
    inPhase phase worker action surroundings = .ok result after ↔
      action surroundings = .ok result after := by
  unfold inPhase
  cases action surroundings with
  | ok value last => simp
  | error fault last => simp

theorem withFirst_eq_ok_iff {first : γ} {action : Action (γ × σ) α} {surroundings after : σ}
    {result : α} :
    withFirst first action surroundings = .ok result after ↔
      ∃ moved, action (first, surroundings) = .ok result (moved, after) := by
  unfold withFirst
  cases action (first, surroundings) with
  | ok value last => simp [Prod.ext_iff]
  | error fault last => simp

theorem onSecond_eq_ok_iff {action : Action σ α} {first : γ} {before : σ} {result : α}
    {last : γ × σ} :
    (onSecond action : Action (γ × σ) α) (first, before) = .ok result last ↔
      ∃ after, action before = .ok result after ∧ last = (first, after) := by
  simp only [onSecond]
  cases action before with
  | ok value middle =>
      constructor
      · intro same
        cases same
        exact ⟨middle, rfl, rfl⟩
      · rintro ⟨_, ⟨rfl, rfl⟩, rfl⟩
        rfl
  | error fault middle => simp

theorem onFirst_eq_ok_iff {action : Action γ α} {first moved : γ} {before after : σ}
    {result : α} :
    (onFirst action : Action (γ × σ) α) (first, before) = .ok result (moved, after) ↔
      action first = .ok result moved ∧ after = before := by
  simp only [onFirst]
  cases action first with
  | ok value last =>
      constructor
      · intro same
        cases same
        exact ⟨rfl, rfl⟩
      · rintro ⟨⟨rfl, rfl⟩, rfl⟩
        rfl
  | error fault last => simp

theorem outcome_eq_ok_iff {action : Action σ α} {surroundings : σ} {result : α} :
    action.outcome surroundings = .ok result ↔
      ∃ last, action surroundings = .ok result last := by
  unfold outcome
  cases action surroundings with
  | ok value last => simp
  | error fault last => simp

theorem attempt_apply (action : Action σ α) (surroundings : σ) :
    action.attempt surroundings =
      .ok (action.outcome surroundings) (action.after surroundings) := by
  unfold attempt outcome after
  cases action surroundings with
  | ok result last => rfl
  | error fault last => rfl

/-! ## Phases and parts of the surroundings -/

theorem inPhase_bind (phase : Phase) (worker : Option Int) (action : Action σ α)
    (next : α → Action σ β) :
    inPhase phase worker (action >>= next) =
      inPhase phase worker action >>= fun result => inPhase phase worker (next result) := by
  funext surroundings
  simp only [inPhase, bind_apply]
  cases action surroundings with
  | ok result middle => rfl
  | error fault middle => rfl

theorem withFirst_bind_apply (first : γ) (action : Action (γ × σ) α)
    (next : α → Action (γ × σ) β) (surroundings : σ) :
    withFirst first (action >>= next) surroundings =
      match action (first, surroundings) with
      | .ok result (moved, middle) => withFirst moved (next result) middle
      | .error fault (_, middle) => .error fault middle := by
  simp only [withFirst, bind_apply]
  cases action (first, surroundings) with
  | ok result middle => rfl
  | error fault middle => rfl

theorem onSecond_pure (result : α) :
    (onSecond (pure result : Action σ α) : Action (γ × σ) α) = pure result :=
  rfl

theorem onSecond_bind (action : Action σ α) (next : α → Action σ β) :
    (onSecond (action >>= next) : Action (γ × σ) β) =
      onSecond action >>= fun result => onSecond (next result) := by
  funext ⟨first, surroundings⟩
  simp only [onSecond, bind_apply]
  cases action surroundings with
  | ok result middle => rfl
  | error fault middle => rfl

/-- What follows an action beside its own first part can be done without that part, if it does not
look at it. -/
theorem withFirst_bind_onSecond (first : γ) (action : Action (γ × σ) α)
    (next : α → Action σ β) :
    withFirst first (action >>= fun result => onSecond (next result)) =
      withFirst first action >>= next := by
  funext surroundings
  simp only [withFirst, bind_apply]
  cases action (first, surroundings) with
  | ok result middle =>
      obtain ⟨moved, last⟩ := middle
      simp only [onSecond]
      cases next result last with
      | ok value final => rfl
      | error fault final => rfl
  | error fault middle => rfl

/-! ## What is left behind -/

theorem after_bind (action : Action σ α) (next : α → Action σ β) (surroundings : σ) :
    (action >>= next).after surroundings =
      match action surroundings with
      | .ok result middle => (next result).after middle
      | .error _ middle => middle := by
  unfold after
  rw [bind_apply]
  cases action surroundings with
  | ok result middle => rfl
  | error fault middle => rfl

theorem after_inPhase (phase : Phase) (worker : Option Int) (action : Action σ α)
    (surroundings : σ) :
    (inPhase phase worker action).after surroundings = action.after surroundings := by
  unfold after inPhase
  cases action surroundings with
  | ok result last => rfl
  | error fault last => rfl

theorem after_withFirst (first : γ) (action : Action (γ × σ) α) (surroundings : σ) :
    (withFirst first action).after surroundings = (action.after (first, surroundings)).2 := by
  unfold after withFirst
  cases action (first, surroundings) with
  | ok result last => rfl
  | error fault last => rfl

/-- An action that leaves its surroundings as they are, whether it fails or not. -/
def Keeps (action : Action σ α) : Prop :=
  ∀ surroundings, action.after surroundings = surroundings

/-- An action that leaves all but the first part of its surroundings as it is. -/
def KeepsSecond (action : Action (γ × σ) α) : Prop :=
  ∀ first surroundings, (action.after (first, surroundings)).2 = surroundings

theorem Keeps.eq_of_eq_ok {action : Action σ α} (keeps : action.Keeps) {before last : σ}
    {result : α} (ran : action before = .ok result last) : last = before :=
  (after_of_eq_ok ran).symm.trans (keeps before)

theorem Keeps.eq_of_eq_error {action : Action σ α} (keeps : action.Keeps) {before last : σ}
    {fault : Fault} (ran : action before = .error fault last) : last = before :=
  (after_of_eq_error ran).symm.trans (keeps before)

/-- An action that leaves its surroundings as they are is as good as what it comes to. -/
theorem Keeps.apply_eq {action : Action σ α} (keeps : action.Keeps) (surroundings : σ) :
    action surroundings =
      match action.outcome surroundings with
      | .ok result => .ok result surroundings
      | .error fault => .error fault surroundings := by
  unfold outcome
  cases ran : action surroundings with
  | ok result last => rw [keeps.eq_of_eq_ok ran]
  | error fault last => rw [keeps.eq_of_eq_error ran]

theorem keeps_ofExcept (given : Except Fault α) : (ofExcept given : Action σ α).Keeps := by
  intro surroundings
  cases given with
  | ok result => rfl
  | error fault => rfl

theorem keeps_pure (result : α) : (pure result : Action σ α).Keeps :=
  keeps_ofExcept (.ok result)

theorem Keeps.bind {action : Action σ α} {next : α → Action σ β} (keeps : action.Keeps)
    (nextKeeps : ∀ result, (next result).Keeps) : (action >>= next).Keeps := by
  intro surroundings
  have same := keeps surroundings
  rw [after_bind]
  unfold after at same
  cases ran : action surroundings with
  | ok result middle =>
      rw [ran] at same
      subst same
      exact nextKeeps result middle
  | error fault middle =>
      rw [ran] at same
      exact same

theorem Keeps.attempt {action : Action σ α} (keeps : action.Keeps) : action.attempt.Keeps := by
  intro surroundings
  have same := keeps surroundings
  unfold after
  rw [attempt_apply]
  exact same

theorem Keeps.inPhase {action : Action σ α} (keeps : action.Keeps) (phase : Phase)
    (worker : Option Int) : (inPhase phase worker action).Keeps := by
  intro surroundings
  rw [after_inPhase]
  exact keeps surroundings

theorem Keeps.eachFrom {action : β → Action σ α} (keeps : ∀ item, (action item).Keeps)
    (items : List β) (earlier : List α) : (eachFrom action items earlier).Keeps := by
  induction items generalizing earlier with
  | nil => exact keeps_pure earlier.reverse
  | cons item rest inductionHypothesis =>
      exact (keeps item).bind fun result => inductionHypothesis (result :: earlier)

theorem Keeps.keepsSecond {action : Action (γ × σ) α} (keeps : action.Keeps) :
    action.KeepsSecond :=
  fun first surroundings => congrArg Prod.snd (keeps (first, surroundings))

theorem KeepsSecond.eq_of_eq_ok {action : Action (γ × σ) α} (keeps : action.KeepsSecond)
    {first moved : γ} {before last : σ} {result : α}
    (ran : action (first, before) = .ok result (moved, last)) : last = before := by
  have same := keeps first before
  unfold after at same
  rw [ran] at same
  exact same

theorem keepsSecond_onFirst (action : Action γ α) :
    (onFirst action : Action (γ × σ) α).KeepsSecond := by
  intro first surroundings
  simp only [after, onFirst]
  cases action first with
  | ok result last => rfl
  | error fault last => rfl

theorem Keeps.onSecond {action : Action σ α} (keeps : action.Keeps) :
    (onSecond action : Action (γ × σ) α).KeepsSecond := by
  intro first surroundings
  simp only [after, Action.onSecond]
  cases ran : action surroundings with
  | ok result last => exact keeps.eq_of_eq_ok ran
  | error fault last => exact keeps.eq_of_eq_error ran

theorem KeepsSecond.bind {action : Action (γ × σ) α} {next : α → Action (γ × σ) β}
    (keeps : action.KeepsSecond) (nextKeeps : ∀ result, (next result).KeepsSecond) :
    (action >>= next).KeepsSecond := by
  intro first surroundings
  have same := keeps first surroundings
  rw [after_bind]
  unfold after at same
  cases ran : action (first, surroundings) with
  | ok result middle =>
      rw [ran] at same
      obtain ⟨moved, rest⟩ := middle
      subst same
      exact nextKeeps result moved rest
  | error fault middle =>
      rw [ran] at same
      exact same

theorem KeepsSecond.inPhase {action : Action (γ × σ) α} (keeps : action.KeepsSecond)
    (phase : Phase) (worker : Option Int) : (Action.inPhase phase worker action).KeepsSecond := by
  intro first surroundings
  rw [after_inPhase]
  exact keeps first surroundings

theorem KeepsSecond.repeatFrom {action : Action (γ × σ) α} (keeps : action.KeepsSecond)
    (rounds : Nat) (earlier : List α) : (action.repeatFrom rounds earlier).KeepsSecond := by
  induction rounds generalizing earlier with
  | zero =>
      intro first surroundings
      rfl
  | succ rounds inductionHypothesis =>
      exact keeps.bind fun result => inductionHypothesis (result :: earlier)

theorem KeepsSecond.withFirst {action : Action (γ × σ) α} (keeps : action.KeepsSecond)
    (first : γ) : (Action.withFirst first action).Keeps := by
  intro surroundings
  rw [after_withFirst]
  exact keeps first surroundings

/-- An action that leaves a part of its surroundings as it is, whether it fails or not. -/
def Preserves (part : σ → γ) (action : Action σ α) : Prop :=
  ∀ surroundings, part (action.after surroundings) = part surroundings

section

variable {part : σ → γ} {action : Action σ α}

theorem Keeps.preserves (keeps : action.Keeps) (part : σ → γ) : action.Preserves part :=
  fun surroundings => congrArg part (keeps surroundings)

theorem Preserves.of_eq_ok (preserves : action.Preserves part) {before last : σ} {result : α}
    (ran : action before = .ok result last) : part last = part before := by
  rw [← after_of_eq_ok ran]
  exact preserves before

theorem Preserves.of_eq_error (preserves : action.Preserves part) {before last : σ}
    {fault : Fault} (ran : action before = .error fault last) : part last = part before := by
  rw [← after_of_eq_error ran]
  exact preserves before

theorem Preserves.bind {next : α → Action σ β} (preserves : action.Preserves part)
    (nextPreserves : ∀ result, (next result).Preserves part) :
    (action >>= next).Preserves part := by
  intro before
  rw [after_bind]
  cases ran : action before with
  | ok result middle =>
      have first := preserves.of_eq_ok ran
      exact (nextPreserves result middle).trans first
  | error fault middle => exact preserves.of_eq_error ran

end

/-! ## Actions that always return -/

/-- An action that never fails, and whose result has the given property. -/
def Yields (Property : α → Prop) (action : Action σ α) : Prop :=
  ∀ before, ∃ result after, action before = .ok result after ∧ Property result

theorem yields_pure {Property : α → Prop} {result : α} (holds : Property result) :
    (pure result : Action σ α).Yields Property :=
  fun before => ⟨result, before, rfl, holds⟩

theorem Yields.bind {First : α → Prop} {Second : β → Prop} {action : Action σ α}
    {next : α → Action σ β} (yields : action.Yields First)
    (nextYields : ∀ result, First result → (next result).Yields Second) :
    (action >>= next).Yields Second := by
  intro before
  obtain ⟨result, middle, ran, first⟩ := yields before
  rw [bind_apply, ran]
  exact nextYields result first middle

theorem Yields.inPhase {Property : α → Prop} {action : Action σ α}
    (yields : action.Yields Property) (phase : Phase) (worker : Option Int) :
    (inPhase phase worker action).Yields Property := by
  intro before
  obtain ⟨result, after, ran, holds⟩ := yields before
  exact ⟨result, after, inPhase_eq_ok_iff.mpr ran, holds⟩

theorem Yields.withFirst {Property : α → Prop} {action : Action (γ × σ) α}
    (yields : action.Yields Property) (first : γ) : (withFirst first action).Yields Property := by
  intro before
  obtain ⟨result, ⟨moved, after⟩, ran, holds⟩ := yields (first, before)
  exact ⟨result, after, withFirst_eq_ok_iff.mpr ⟨moved, ran⟩, holds⟩

theorem Yields.onSecond {Property : α → Prop} {action : Action σ α}
    (yields : action.Yields Property) :
    (onSecond action : Action (γ × σ) α).Yields Property := by
  rintro ⟨first, before⟩
  obtain ⟨result, after, ran, holds⟩ := yields before
  refine ⟨result, (first, after), ?_, holds⟩
  simp only [Action.onSecond, ran]

theorem Yields.repeatFrom {Property : α → Prop} {action : Action σ α}
    (yields : action.Yields Property) (rounds : Nat) {earlier : List α}
    (earlierHold : ∀ result ∈ earlier, Property result) :
    (action.repeatFrom rounds earlier).Yields fun results =>
      results.length = earlier.length + rounds ∧ ∀ result ∈ results, Property result := by
  induction rounds generalizing earlier with
  | zero =>
      refine yields_pure ⟨List.length_reverse, fun result member => ?_⟩
      exact earlierHold result (List.mem_reverse.mp member)
  | succ rounds inductionHypothesis =>
      refine yields.bind fun result holds => ?_
      have later := inductionHypothesis (List.forall_mem_cons.mpr ⟨holds, earlierHold⟩)
      rwa [List.length_cons, Nat.add_right_comm, Nat.add_assoc] at later

theorem Yields.eachFrom {Given : β → Prop} {Property : α → Prop} {action : β → Action σ α}
    (yields : ∀ item, Given item → (action item).Yields Property) {items : List β}
    (given : ∀ item ∈ items, Given item) {earlier : List α}
    (earlierHold : ∀ result ∈ earlier, Property result) :
    (Action.eachFrom action items earlier).Yields fun results =>
      results.length = earlier.length + items.length ∧ ∀ result ∈ results, Property result := by
  induction items generalizing earlier with
  | nil =>
      refine yields_pure ⟨List.length_reverse, fun result member => ?_⟩
      exact earlierHold result (List.mem_reverse.mp member)
  | cons item rest inductionHypothesis =>
      refine (yields item (given item List.mem_cons_self)).bind fun result holds => ?_
      have later := inductionHypothesis
        (fun other member => given other (List.mem_cons_of_mem item member))
        (List.forall_mem_cons.mpr ⟨holds, earlierHold⟩)
      rwa [List.length_cons, Nat.add_right_comm, Nat.add_assoc] at later

theorem Yields.repeated {Property : α → Prop} {action : Action σ α}
    (yields : action.Yields Property) (rounds : Nat) :
    (action.repeated rounds).Yields fun results =>
      results.length = rounds ∧ ∀ result ∈ results, Property result := by
  have fromNone : ∀ result ∈ ([] : List α), Property result := fun result member => by cases member
  have later := yields.repeatFrom rounds fromNone
  rwa [List.length_nil, Nat.zero_add] at later

theorem Yields.each {Given : β → Prop} {Property : α → Prop} {action : β → Action σ α}
    (yields : ∀ item, Given item → (action item).Yields Property) {items : List β}
    (given : ∀ item ∈ items, Given item) :
    (Action.each action items).Yields fun results =>
      results.length = items.length ∧ ∀ result ∈ results, Property result := by
  have fromNone : ∀ result ∈ ([] : List α), Property result := fun result member => by cases member
  have later := Yields.eachFrom yields given fromNone
  rwa [List.length_nil, Nat.zero_add] at later

theorem Yields.outcome {Property : α → Prop} {action : Action σ α}
    (yields : action.Yields Property) (surroundings : σ) :
    ∃ result, action.outcome surroundings = .ok result ∧ Property result := by
  obtain ⟨result, after, ran, holds⟩ := yields surroundings
  exact ⟨result, outcome_eq_ok_iff.mpr ⟨after, ran⟩, holds⟩

/-! ## Actions that return -/

/-- An action returns in the given surroundings. -/
def Succeeds (action : Action σ α) (before : σ) : Prop :=
  ∃ result after, action before = .ok result after

theorem succeeds_pure (result : α) (before : σ) : (pure result : Action σ α).Succeeds before :=
  ⟨result, before, rfl⟩

theorem succeeds_ofExcept_iff {given : Except Fault α} {before : σ} :
    (ofExcept given : Action σ α).Succeeds before ↔ ∃ result, given = .ok result := by
  constructor
  · rintro ⟨result, _, ran⟩
    exact ⟨result, (ofExcept_eq_ok_iff.mp ran).1⟩
  · rintro ⟨result, same⟩
    exact ⟨result, before, ofExcept_eq_ok_iff.mpr ⟨same, rfl⟩⟩

theorem succeeds_inPhase_iff {phase : Phase} {worker : Option Int} {action : Action σ α}
    {before : σ} : (inPhase phase worker action).Succeeds before ↔ action.Succeeds before :=
  exists_congr fun _ => exists_congr fun _ => inPhase_eq_ok_iff

/-- What does not return fails. -/
theorem exists_eq_error_of_not_succeeds {action : Action σ α} {before : σ}
    (stuck : ¬ action.Succeeds before) : ∃ fault after, action before = .error fault after := by
  cases ran : action before with
  | ok result after => exact absurd ⟨result, after, ran⟩ stuck
  | error fault after => exact ⟨fault, after, rfl⟩

end Action

/-! ## Faults of workers -/

/-- The same fault, where it is a worker that failed. -/
def Fault.inWorker (worker : Int) : Fault → Fault
  | .phaseFailed label _ cause => .phaseFailed label (some worker) cause
  | fault => fault

theorem Fault.inWorker_of_isInterrupt {fault : Fault} (interrupt : fault.isInterrupt = true)
    (worker : Int) : fault.inWorker worker = fault := by
  cases fault with
  | phaseFailed label place cause => cases interrupt
  | _ => rfl

theorem Fault.inWorker_refusal (worker : Int) (reason : Rejection) :
    (Fault.refusal reason).inWorker worker = .refusal reason := by
  unfold Fault.refusal Fault.writing
  split
  · rfl
  · rfl

namespace Action

variable {σ γ α β : Type}

/-- The same action, where it is a worker that fails. -/
def asWorker (worker : Int) (action : Action σ α) : Action σ α := fun surroundings =>
  match action surroundings with
  | .ok result after => .ok result after
  | .error fault after => .error (fault.inWorker worker) after

theorem asWorker_pure (worker : Int) (result : α) :
    asWorker worker (pure result : Action σ α) = pure result :=
  rfl

theorem asWorker_bind (worker : Int) (action : Action σ α) (next : α → Action σ β) :
    asWorker worker (action >>= next) =
      asWorker worker action >>= fun result => asWorker worker (next result) := by
  funext surroundings
  simp only [asWorker, bind_apply]
  cases action surroundings with
  | ok result middle => rfl
  | error fault middle => rfl

theorem asWorker_onSecond (worker : Int) (action : Action σ α) :
    asWorker worker (onSecond action : Action (γ × σ) α) = onSecond (asWorker worker action) := by
  funext ⟨first, surroundings⟩
  simp only [asWorker, onSecond]
  cases action surroundings with
  | ok result last => rfl
  | error fault last => rfl

/-- A phase names the worker that failed, or none. -/
theorem asWorker_inPhase (worker : Int) (phase : Phase) (action : Action σ α) :
    asWorker worker (inPhase phase none action) = inPhase phase (some worker) action := by
  funext surroundings
  simp only [asWorker, inPhase]
  cases action surroundings with
  | ok result last => rfl
  | error fault last =>
      cases interrupt : fault.isInterrupt with
      | false => simp [interrupt, Fault.inWorker]
      | true => simp [interrupt, Fault.inWorker_of_isInterrupt interrupt]

end Action

end RandomSearch
