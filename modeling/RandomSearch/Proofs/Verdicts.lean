import Mathlib.Data.List.Forall2
import RandomSearch.Proofs.Course

/-!
# Verdicts

The constraints are asked about a candidate one after the other, whatever the verdicts so far.  The
first that fails ends it, and those behind it are not asked.  If none fails, every constraint has a
verdict of its own, which none of the others has a part in.
-/

namespace RandomSearch

variable {σ α : Type}

theorem Fault.ofPredicate_of_stopIteration {fault : Fault} (stops : fault.kind = .stopIteration) :
    fault.ofPredicate = .predicateStopped := by
  rw [ofPredicate, stops]
  rfl

theorem Fault.ofPredicate_of_ne {fault : Fault} (goesOn : fault.kind ≠ .stopIteration) :
    fault.ofPredicate = fault := by
  rw [ofPredicate, if_neg fun stops => goesOn (beq_iff_eq.mp stops)]

/-- A candidate with the verdicts that are the truth values of answers. -/
def Validated.ofAnswers (candidate : α) (answers : List Value) : Validated α :=
  ⟨candidate, answers.map fun answer => .bool answer.truthy⟩

namespace Constraint

/-- Ask a constraint about a candidate, without a verdict on the answer. -/
def answer (candidate : α) (constraint : Constraint σ α) : Action σ Value :=
  constraint.predicate candidate

/-! ## Answers and questions -/

theorem verdict_eq_ok_iff {constraint : Constraint σ α} {candidate : α} {before after : σ}
    {verdict : Bool} :
    constraint.verdict candidate before = .ok verdict after ↔
      ∃ value, constraint.answer candidate before = .ok value after ∧ verdict = value.truthy := by
  unfold Constraint.verdict answer
  cases constraint.predicate candidate before with
  | ok value last =>
      constructor
      · intro same
        cases same
        exact ⟨value, rfl, rfl⟩
      · rintro ⟨_, ⟨rfl, rfl⟩, rfl⟩
        rfl
  | error fault last =>
      refine iff_of_false (fun same => by cases same) ?_
      rintro ⟨_, same, _⟩
      cases same

theorem returns_zipIdx_iff {constraints : List (Constraint σ α)} {candidate : α}
    {before after : σ} {verdicts : List Bool} (position : Nat) :
    Action.Returns Question.ask
        ((constraints.zipIdx position).map fun (constraint, place) =>
          ⟨constraint, place, candidate⟩)
        before verdicts after ↔
      ∃ answers, Action.Returns (answer candidate) constraints before answers after ∧
        verdicts = answers.map Value.truthy := by
  induction constraints generalizing position before verdicts with
  | nil =>
      constructor
      · intro returns
        cases returns
        exact ⟨[], .nil _, rfl⟩
      · rintro ⟨answers, returns, rfl⟩
        cases returns
        exact .nil _
  | cons constraint rest inductionHypothesis =>
      rw [List.zipIdx_cons, List.map_cons]
      constructor
      · intro returns
        cases returns with
        | cons ran later =>
            obtain ⟨value, answered, rfl⟩ := verdict_eq_ok_iff.mp ran
            obtain ⟨answers, others, rfl⟩ := (inductionHypothesis (position + 1)).mp later
            exact ⟨value :: answers, .cons answered others, rfl⟩
      · rintro ⟨answers, returns, rfl⟩
        cases returns with
        | cons answered others =>
            exact .cons (verdict_eq_ok_iff.mpr ⟨_, answered, rfl⟩)
              ((inductionHypothesis (position + 1)).mpr ⟨_, others, rfl⟩)

/-- Questions are answered exactly if the predicates are. -/
theorem returns_about_iff {constraints : List (Constraint σ α)} {candidate : α}
    {before after : σ} {verdicts : List Bool} :
    Action.Returns Question.ask (Question.about constraints candidate) before verdicts after ↔
      ∃ answers, Action.Returns (answer candidate) constraints before answers after ∧
        verdicts = answers.map Value.truthy :=
  returns_zipIdx_iff 0

theorem validate_apply (constraints : List (Constraint σ α)) (candidate : α) (before : σ) :
    validate constraints candidate before =
      match Action.each Question.ask (Question.about constraints candidate) before with
      | .ok verdicts after => .ok ⟨candidate, verdicts.map .bool⟩ after
      | .error fault after => .error fault after := by
  rw [validate, verdicts_eq_each, Action.bind_apply]
  cases Action.each Question.ask (Question.about constraints candidate) before with
  | ok verdicts after => rfl
  | error fault after => rfl

/-- A candidate is validated exactly if every predicate returns, and the verdicts are the truth
values of what they return. -/
theorem validate_eq_ok_iff {constraints : List (Constraint σ α)} {candidate : α}
    {before after : σ} {entry : Validated α} :
    validate constraints candidate before = .ok entry after ↔
      ∃ answers, Action.Returns (answer candidate) constraints before answers after ∧
        entry = .ofAnswers candidate answers := by
  rw [validate_apply]
  constructor
  · intro validates
    split at validates
    · rename_i verdicts last asked
      cases validates
      obtain ⟨answers, returns, rfl⟩ := returns_about_iff.mp (Action.each_eq_ok_iff.mp asked)
      exact ⟨answers, returns, by rw [List.map_map]; rfl⟩
    · cases validates
  · rintro ⟨answers, returns, rfl⟩
    rw [Action.each_eq_ok_iff.mpr (returns_about_iff.mpr ⟨answers, returns, rfl⟩)]
    dsimp only
    rw [List.map_map]
    rfl

theorem validate_of_fails {asked later : List (Constraint σ α)} {failing : Constraint σ α}
    {candidate : α} {before middle last : σ} {answers : List Value} {fault : Fault}
    (returns : Action.Returns (answer candidate) asked before answers middle)
    (fails : failing.predicate candidate middle = .error fault last) :
    validate (asked ++ failing :: later) candidate before = .error fault.ofPredicate last := by
  have split : Question.about (asked ++ failing :: later) candidate =
      Question.about asked candidate ++ ⟨failing, asked.length, candidate⟩ ::
        ((later.zipIdx (asked.length + 1)).map fun (constraint, place) =>
          ⟨constraint, place, candidate⟩) := by
    simp [Question.about, List.zipIdx_append]
  have failed : Question.ask ⟨failing, asked.length, candidate⟩ middle =
      .error fault.ofPredicate last := Question.ask_eq_error_iff.mpr ⟨fault, fails, rfl⟩
  have stopped := Action.each_eq_error_iff.mpr
    ⟨_, _, ⟨_, split⟩, _, _, returns_about_iff.mpr ⟨answers, returns, rfl⟩, failed⟩
  rw [validate_apply, stopped]

/-! ## Calls -/

/-- The constraints with their calls noted. -/
def recorded (constraints : List (Constraint σ α)) : List (Constraint (List (Call α) × σ) α) :=
  constraints.zipIdx.map fun (constraint, position) =>
    Sampler.recordedConstraint constraint position

/-- The calls of predicates that it takes to validate a candidate, in order. -/
def validateCalls (constraints : List (Constraint σ α)) (candidate : α) (before : σ) :
    List (Call α) :=
  match validate (recorded constraints) candidate ([], before) with
  | .ok _ (calls, _) => calls
  | .error _ (calls, _) => calls

/-- The constraints at the given number of first positions are asked about a candidate, each
once. -/
def asks (candidate : α) (count : Nat) : List (Call α) :=
  (List.range count).map fun position => .ask position candidate

theorem map_call_about (constraints : List (Constraint σ α)) (candidate : α) :
    (Question.about constraints candidate).map Question.call =
      asks candidate constraints.length := by
  have positions : constraints.zipIdx.map Prod.snd = List.range constraints.length := by
    rw [List.zipIdx_map_snd, List.range_eq_range']
  rw [asks, ← positions, Question.about, List.map_map, List.map_map]
  rfl

/-- Whoever notes the calls hears the same answers, and has noted each constraint once. -/
theorem returns_recorded {constraints : List (Constraint σ α)} {candidate : α}
    {before after : σ} {answers : List Value}
    (returns : Action.Returns (answer candidate) constraints before answers after) :
    ∃ noted, Action.Returns (answer candidate) (recorded constraints) ([], before) noted
      (asks candidate constraints.length, after) := by
  have asked := Sampler.recorded_returns (returns_about_iff.mpr ⟨answers, returns, rfl⟩) []
  rw [← Sampler.about_recorded, map_call_about, List.nil_append] at asked
  obtain ⟨noted, heard, -⟩ := returns_about_iff.mp asked
  exact ⟨noted, heard⟩

theorem recorded_append_cons (asked later : List (Constraint σ α)) (failing : Constraint σ α) :
    ∃ others, recorded (asked ++ failing :: later) =
      recorded asked ++ Sampler.recordedConstraint failing asked.length :: others := by
  simp only [recorded, List.zipIdx_append, List.map_append, List.zipIdx_cons, List.map_cons,
    Nat.zero_add]
  exact ⟨_, rfl⟩

/-! ## Judgements -/

/-- How the validation of a candidate can go, with the calls that it makes and with what comes of
it. -/
inductive Judgement (constraints : List (Constraint σ α)) (candidate : α) (before : σ) :
    List (Call α) → EStateM.Result Fault σ (Validated α) → Prop where
  /-- Every predicate returns, whether it is in favour or not. -/
  | answers {after : σ} {answers : List Value} :
      Action.Returns (answer candidate) constraints before answers after →
      Judgement constraints candidate before (asks candidate constraints.length)
        (.ok ⟨candidate, answers.map fun answer => .bool answer.truthy⟩ after)
  /-- A predicate fails after all before it have returned, whatever their answers. -/
  | fails {asked later : List (Constraint σ α)} {failing : Constraint σ α} {middle last : σ}
      {answers : List Value} {fault : Fault} :
      constraints = asked ++ failing :: later →
      Action.Returns (answer candidate) asked before answers middle →
      failing.predicate candidate middle = .error fault last →
      fault.kind ≠ .stopIteration →
      Judgement constraints candidate before (asks candidate (asked.length + 1))
        (.error fault last)
  /-- A predicate fails with the sign that an iteration has ended, which does not end this one. -/
  | stops {asked later : List (Constraint σ α)} {failing : Constraint σ α} {middle last : σ}
      {answers : List Value} {fault : Fault} :
      constraints = asked ++ failing :: later →
      Action.Returns (answer candidate) asked before answers middle →
      failing.predicate candidate middle = .error fault last →
      fault.kind = .stopIteration →
      Judgement constraints candidate before (asks candidate (asked.length + 1))
        (.error .predicateStopped last)

theorem validate_recorded_of_fails {asked later : List (Constraint σ α)}
    {failing : Constraint σ α} {candidate : α} {before middle last : σ} {answers : List Value}
    {fault : Fault}
    (returns : Action.Returns (answer candidate) asked before answers middle)
    (fails : failing.predicate candidate middle = .error fault last) :
    validate (recorded (asked ++ failing :: later)) candidate ([], before) =
      .error fault.ofPredicate (asks candidate (asked.length + 1), last) := by
  obtain ⟨noted, heard⟩ := returns_recorded returns
  obtain ⟨others, split⟩ := recorded_append_cons asked later failing
  have failed := Action.noting_apply (.ask asked.length candidate) (failing.predicate candidate)
    (asks candidate asked.length) middle
  rw [fails] at failed
  have calls : asks candidate asked.length ++ [.ask asked.length candidate] =
      asks candidate (asked.length + 1) := by
    rw [asks, asks, List.range_succ, List.map_append, List.map_singleton]
  rw [split, validate_of_fails heard failed, calls]

theorem Judgement.validate_eq {constraints : List (Constraint σ α)} {candidate : α} {before : σ}
    {calls : List (Call α)} {result : EStateM.Result Fault σ (Validated α)}
    (judgement : Judgement constraints candidate before calls result) :
    validate constraints candidate before = result := by
  cases judgement with
  | answers returns => exact validate_eq_ok_iff.mpr ⟨_, returns, rfl⟩
  | fails split returns fails goesOn =>
      rw [split, validate_of_fails returns fails, Fault.ofPredicate_of_ne goesOn]
  | stops split returns fails stops =>
      rw [split, validate_of_fails returns fails, Fault.ofPredicate_of_stopIteration stops]

theorem Judgement.validateCalls_eq {constraints : List (Constraint σ α)} {candidate : α}
    {before : σ} {calls : List (Call α)} {result : EStateM.Result Fault σ (Validated α)}
    (judgement : Judgement constraints candidate before calls result) :
    validateCalls constraints candidate before = calls := by
  rw [validateCalls]
  cases judgement with
  | answers returns =>
      obtain ⟨noted, heard⟩ := returns_recorded returns
      rw [validate_eq_ok_iff.mpr ⟨noted, heard, rfl⟩]
  | fails split returns fails goesOn => rw [split, validate_recorded_of_fails returns fails]
  | stops split returns fails stops => rw [split, validate_recorded_of_fails returns fails]

theorem exists_judgement (constraints : List (Constraint σ α)) (candidate : α) (before : σ) :
    ∃ calls result, Judgement constraints candidate before calls result := by
  cases asks : Action.each (answer candidate) constraints before with
  | ok answers after => exact ⟨_, _, .answers (Action.each_eq_ok_iff.mp asks)⟩
  | error fault last =>
      obtain ⟨asked, failing, ⟨later, split⟩, answers, middle, returns, fails⟩ :=
        Action.each_eq_error_iff.mp asks
      by_cases stops : fault.kind = .stopIteration
      · exact ⟨_, _, .stops split returns fails stops⟩
      · exact ⟨_, _, .fails split returns fails stops⟩

theorem judgement_iff {constraints : List (Constraint σ α)} {candidate : α} {before : σ}
    {calls : List (Call α)} {result : EStateM.Result Fault σ (Validated α)} :
    Judgement constraints candidate before calls result ↔
      validateCalls constraints candidate before = calls ∧
        validate constraints candidate before = result := by
  constructor
  · intro judgement
    exact ⟨judgement.validateCalls_eq, judgement.validate_eq⟩
  · rintro ⟨rfl, rfl⟩
    -- There is some judgement, and no two of them have different calls or results.
    obtain ⟨calls, result, judgement⟩ := exists_judgement constraints candidate before
    rw [judgement.validateCalls_eq, judgement.validate_eq]
    exact judgement

/-! ## Lists of constraints put together -/

/-- The constraints of a second list are asked as if there were no first. -/
theorem validate_append (constraints others : List (Constraint σ α)) (candidate : α) :
    validate (constraints ++ others) candidate = do
      let entry ← validate constraints candidate
      let other ← validate others candidate
      return ⟨candidate, entry.verdicts ++ other.verdicts⟩ := by
  have together : verdicts candidate (constraints ++ others) = do
      let first ← verdicts candidate constraints
      let second ← verdicts candidate others
      return first ++ second := by
    induction constraints with
    | nil => simp only [List.nil_append, verdicts, pure_bind, bind_pure]
    | cons constraint rest inductionHypothesis =>
        simp only [List.cons_append, verdicts, inductionHypothesis, bind_assoc, pure_bind]
  simp only [validate, together, bind_assoc, pure_bind, List.map_append]

/-! ## Predicates that leave the surroundings as they are -/

section

variable {constraints : List (Constraint σ α)} {candidate : α} {before : σ}

/-- Whether a constraint is in favour of a candidate when it is asked here.  One that fails is
not. -/
def favours (candidate : α) (before : σ) (constraint : Constraint σ α) : Bool :=
  match constraint.predicate candidate before with
  | .ok answer _ => answer.truthy
  | .error _ _ => false

theorem favours_of_returns
    (keeps : ∀ constraint ∈ constraints, (constraint.predicate candidate).Keeps) {after : σ}
    {answers : List Value}
    (returns : Action.Returns (answer candidate) constraints before answers after) :
    after = before ∧ answers.map Value.truthy = constraints.map (favours candidate before) := by
  induction returns with
  | nil before => exact ⟨rfl, rfl⟩
  | @cons constraint rest before middle after value answers answered _ inductionHypothesis =>
      obtain ⟨first, others⟩ := List.forall_mem_cons.mp keeps
      have same := first.eq_of_eq_ok answered
      subst same
      obtain ⟨unchanged, later⟩ := inductionHypothesis others
      have here : favours candidate middle constraint = value.truthy := by
        unfold answer at answered
        rw [favours, answered]
      exact ⟨unchanged, by rw [List.map_cons, List.map_cons, later, here]⟩

/-- Each verdict is what its constraint says when it alone is asked. -/
theorem validate_of_keeps
    (keeps : ∀ constraint ∈ constraints, (constraint.predicate candidate).Keeps)
    (succeeds : ∀ constraint ∈ constraints, (constraint.predicate candidate).Succeeds before) :
    validate constraints candidate before =
      .ok ⟨candidate, constraints.map fun constraint => .bool (favours candidate before constraint)⟩
        before := by
  obtain ⟨answers, after, asked⟩ := (Action.succeeds_each_iff keeps).mpr succeeds
  have returns := Action.each_eq_ok_iff.mp asked
  obtain ⟨rfl, verdicts⟩ := favours_of_returns keeps returns
  refine validate_eq_ok_iff.mpr ⟨answers, returns, ?_⟩
  have written := congrArg (List.map Value.bool) verdicts
  rw [List.map_map, List.map_map] at written
  exact congrArg (Validated.mk candidate) written.symm

theorem succeeds_of_validate
    (keeps : ∀ constraint ∈ constraints, (constraint.predicate candidate).Keeps) {after : σ}
    {entry : Validated α} (validates : validate constraints candidate before = .ok entry after) :
    ∀ constraint ∈ constraints, (constraint.predicate candidate).Succeeds before := by
  obtain ⟨answers, returns, -⟩ := validate_eq_ok_iff.mp validates
  exact (Action.succeeds_each_iff keeps).mp ⟨answers, after, Action.each_eq_ok_iff.mpr returns⟩

/-- In another order the same constraints have the same verdicts. -/
theorem validate_perm
    (keeps : ∀ constraint ∈ constraints, (constraint.predicate candidate).Keeps) {after : σ}
    {entry : Validated α} (validates : validate constraints candidate before = .ok entry after)
    {permuted : List (Constraint σ α)} (order : permuted.Perm constraints) :
    ∃ other, validate permuted candidate before = .ok other before ∧
      (permuted.zip other.verdicts).Perm (constraints.zip entry.verdicts) ∧
      other.isValid = entry.isValid := by
  have succeeds := succeeds_of_validate keeps validates
  rw [validate_of_keeps keeps succeeds] at validates
  cases validates
  refine ⟨_, validate_of_keeps (fun constraint member => keeps constraint (order.mem_iff.mp member))
    (fun constraint member => succeeds constraint (order.mem_iff.mp member)), ?_, ?_⟩
  · rw [← List.map_prod_left_eq_zip, ← List.map_prod_left_eq_zip]
    exact order.map _
  · exact (order.map _).all_eq

end

theorem validate_shape {constraints : List (Constraint σ α)} {candidate : α} {before after : σ}
    {entry : Validated α} (validates : validate constraints candidate before = .ok entry after) :
    entry.candidate = candidate ∧ entry.verdicts.length = constraints.length ∧
      (entry.isValid = true ↔ ∀ verdict ∈ entry.verdicts, verdict = .bool true) := by
  obtain ⟨answers, returns, rfl⟩ := validate_eq_ok_iff.mp validates
  refine ⟨rfl, (List.length_map _).trans returns.length_eq, ?_⟩
  rw [Validated.isValid, List.all_eq_true]
  refine forall₂_congr fun verdict member => ?_
  obtain ⟨value, -, rfl⟩ := List.mem_map.mp member
  cases value.truthy with
  | false => simp [Value.truthy]
  | true => simp [Value.truthy]

/-- Every constraint is asked about a candidate once, in order, until one fails, and its fault is
what comes of it, except that the sign that an iteration has ended is a fault of its own here.  If
none fails, there is a verdict for each constraint, whether it agrees with the others or not, and
the candidate is valid if all are in favour.  Lists that are put together have their verdicts put
together.  Where the predicates leave everything as it is, a verdict is what its constraint says
alone, and in another order the constraints say the same. -/
theorem validate_independent (constraints : List (Constraint σ α)) (candidate : α) (before : σ) :
    (∀ calls result, Judgement constraints candidate before calls result ↔
      validateCalls constraints candidate before = calls ∧
        validate constraints candidate before = result) ∧
    (Fault.predicateStopped.kind = .runtimeError ∧
      Fault.predicateStopped.message = "generator raised StopIteration") ∧
    (∀ entry after, validate constraints candidate before = .ok entry after →
      entry.candidate = candidate ∧ entry.verdicts.length = constraints.length ∧
        (entry.isValid = true ↔ ∀ verdict ∈ entry.verdicts, verdict = .bool true)) ∧
    (∀ others, validate (constraints ++ others) candidate = do
      let entry ← validate constraints candidate
      let other ← validate others candidate
      return ⟨candidate, entry.verdicts ++ other.verdicts⟩) ∧
    ((∀ constraint ∈ constraints, (constraint.predicate candidate).Keeps) →
      ∀ entry after, validate constraints candidate before = .ok entry after →
        after = before ∧
        List.Forall₂ (fun constraint verdict => ∃ answer,
          constraint.predicate candidate before = .ok answer before ∧
            verdict = .bool answer.truthy) constraints entry.verdicts ∧
        ∀ permuted : List (Constraint σ α), permuted.Perm constraints → ∃ other,
          validate permuted candidate before = .ok other before ∧
            (permuted.zip other.verdicts).Perm (constraints.zip entry.verdicts) ∧
            other.isValid = entry.isValid) := by
  refine ⟨fun calls result => judgement_iff, ⟨rfl, rfl⟩, fun entry after => validate_shape,
    fun others => validate_append constraints others candidate, ?_⟩
  intro keeps entry after validates
  have succeeds := succeeds_of_validate keeps validates
  have alone := validate_of_keeps keeps succeeds
  rw [alone] at validates
  cases validates
  refine ⟨rfl, ?_, fun permuted order => validate_perm keeps alone order⟩
  refine List.forall₂_map_right_iff.mpr (List.forall₂_same.mpr fun constraint member => ?_)
  obtain ⟨value, last, answered⟩ := succeeds constraint member
  have same := (keeps constraint member).eq_of_eq_ok answered
  subst same
  exact ⟨value, answered, by rw [favours, answered]⟩

theorem validate_independent_mixed :
    let refuses : Constraint Unit Nat := ⟨"refuses", fun _ => pure (.int 0)⟩
    let agrees : Constraint Unit Nat := ⟨"agrees", fun _ => pure (.str "yes")⟩
    let ends : Constraint Unit Nat := ⟨"ends", fun _ => throw (.raised .stopIteration "")⟩
    (validateCalls [refuses, ends, agrees] 7 () = [.ask 0 7, .ask 1 7] ∧
      validate [refuses, ends, agrees] 7 () = .error .predicateStopped ()) ∧
    ∃ other, validate [agrees, refuses] 7 () = .ok other () ∧
      ([agrees, refuses].zip other.verdicts).Perm
        ([refuses, agrees].zip [.bool false, .bool true]) ∧
      other.isValid = false := by
  intro refuses agrees ends
  constructor
  · have split : [refuses, ends, agrees] = [refuses] ++ ends :: [agrees] := rfl
    exact ((validate_independent [refuses, ends, agrees] 7 ()).1 _ _).mp
      (.stops split (.cons rfl (.nil ())) rfl rfl)
  · have keeps : ∀ constraint ∈ [refuses, agrees], (constraint.predicate 7).Keeps := by
      intro constraint member
      rcases List.mem_pair.mp member with rfl | rfl
      · exact Action.keeps_pure _
      · exact Action.keeps_pure _
    have alone := (validate_independent [refuses, agrees] 7 ()).2.2.2.2 keeps _ _ rfl
    exact alone.2.2 [agrees, refuses] (.swap refuses agrees [])

end Constraint

end RandomSearch
