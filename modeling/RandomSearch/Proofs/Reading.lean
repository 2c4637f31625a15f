import RandomSearch.Proofs.Definitions

/-!
# What definitions say

A definition whose parts have the form they should have says what a problem is to be: names and
weights of variables, limits for all of them or for each, constraints and a direction.  A problem is
read of it exactly if what it says is well-formed, and that problem is the one it says.  Any other
such definition is refused, unless the message about an empty range would have to write a limit that
is too long.
-/

namespace RandomSearch

/-! ## Fields -/

namespace Value

theorem field_eq_ok {entries : List (Value × Value)} {name : String} {value : Value}
    (found : Entries.get? entries (Value.str name) = some value) :
    field entries name = .ok value := by
  unfold field
  rw [found]

/-- A text that may be missing is read as itself or as what stands for it. -/
theorem fieldOr_eq_str {entries : List (Value × Value)} {name : String} {said : Option Text}
    (found : Entries.get? entries (Value.str name) = said.map Value.str) (otherwise : Text) :
    fieldOr entries name (.str otherwise) = .str (said.getD otherwise) := by
  unfold fieldOr
  rw [found]
  cases said with
  | none => rfl
  | some text => rfl

theorem mapM_toInteger_ints (numbers : List Int) :
    (numbers.map Value.int).mapM toInteger = .ok numbers := by
  induction numbers with
  | nil => rfl
  | cons number rest inductionHypothesis =>
      rw [List.map_cons, List.mapM_cons, toInteger_int, inductionHypothesis]
      rfl

theorem not_missesInteger_int {n : Int} {kind : FaultKind} :
    ¬ (Value.int n).MissesInteger kind := by
  intro misses
  cases misses with
  | infinite infinite =>
      obtain ⟨_, same, _⟩ := infinite
      cases same

end Value

/-! ## Constraints -/

/-- What is said of a constraint: perhaps its name, its coefficients, its bound, and perhaps its
sense. -/
structure StatedConstraint where
  name : Option Text
  coefficients : List Int
  bound : Int
  sense : Option Text

namespace StatedConstraint

variable {stated : StatedConstraint} {entries : List (Value × Value)} {position : Nat}

/-- The entries of a map say this of a constraint, whatever else is among them. -/
structure IsIn (stated : StatedConstraint) (entries : List (Value × Value)) : Prop where
  name : Entries.get? entries (Value.str "name") = stated.name.map .str
  coefficients : Entries.get? entries (Value.str "coefficients") =
    some (.list (stated.coefficients.map .int))
  bound : Entries.get? entries (Value.str "bound") = some (.int stated.bound)
  sense : Entries.get? entries (Value.str "sense") = stated.sense.map .str

/-- How the sense of a constraint is written, or would be. -/
def symbol (stated : StatedConstraint) : Text :=
  stated.sense.getD LinearConstraint.usualSense

/-- The constraint at some position is the one that is said.  A name that is missing is that of the
position. -/
structure IsReadAs (stated : StatedConstraint) (position : Nat) (constraint : LinearConstraint) :
    Prop where
  name : constraint.name = .str (stated.name.getD s!"c{position}")
  coefficients : constraint.coefficients = stated.coefficients.map .int
  bound : constraint.bound = .int stated.bound
  sense : constraint.sense.symbol = stated.symbol

theorem ofValue_eq (isIn : stated.IsIn entries) (position : Nat) :
    LinearConstraint.ofValue position (.map entries) =
      LinearConstraint.make (.str (stated.name.getD s!"c{position}"))
        (.list (stated.coefficients.map .int)) (.int stated.bound) (.str stated.symbol) := by
  simp only [LinearConstraint.ofValue, Value.entries, bind, Except.bind]
  rw [Value.fieldOr_eq_str isIn.name, Value.fieldOr_eq_str isIn.sense,
    Value.field_eq_ok isIn.coefficients, Value.field_eq_ok isIn.bound]
  rfl

theorem ofValue_eq_ok_iff (isIn : stated.IsIn entries) {constraint : LinearConstraint} :
    LinearConstraint.ofValue position (.map entries) = .ok constraint ↔
      stated.IsReadAs position constraint := by
  rw [ofValue_eq isIn, LinearConstraint.make_of_texts]
  constructor
  · intro made
    split at made
    · rename_i known same
      cases made
      exact ⟨rfl, rfl, rfl, Sense.symbol_of_ofSymbol? same⟩
    · cases made
  · intro isReadAs
    rw [← isReadAs.sense, Sense.ofSymbol?_symbol]
    obtain ⟨name, coefficients, bound, sense⟩ := constraint
    cases isReadAs.name
    cases isReadAs.coefficients
    cases isReadAs.bound
    rfl

theorem not_hasLongText (isIn : stated.IsIn entries) :
    ¬ LinearConstraint.HasLongText position (.map entries) := by
  rintro ⟨_, ⟨rfl⟩, long | ⟨_, _, long⟩⟩
  · rw [Value.fieldOr_eq_str isIn.name] at long
    cases long
  · rw [Value.fieldOr_eq_str isIn.sense] at long
    cases long

/-- The items of a list say this of the constraints, one after the other. -/
def AreIn (constraints : List StatedConstraint) (items : List Value) : Prop :=
  List.Forall₂ (fun stated item => ∃ entries, item = .map entries ∧ stated.IsIn entries)
    constraints items

theorem AreIn.forall_exists {constraints : List StatedConstraint} {items : List Value}
    (areIn : AreIn constraints items) :
    ∀ item ∈ items, ∃ stated entries, item = .map entries ∧ IsIn stated entries := by
  unfold AreIn at areIn
  induction areIn with
  | nil => exact List.forall_mem_nil _
  | cons said _ inductionHypothesis =>
      exact List.forall_mem_cons.mpr ⟨⟨_, said⟩, inductionHypothesis⟩

/-- The constraints, numbered from the given position on, are those that are said. -/
def AreReadAs (position : Nat) (stated : List StatedConstraint)
    (constraints : List LinearConstraint) : Prop :=
  List.Forall₂ (fun numbered constraint => numbered.1.IsReadAs numbered.2 constraint)
    (stated.zipIdx position) constraints

theorem ofValuesFrom_eq_ok_iff {stated : List StatedConstraint} {items : List Value}
    (areIn : AreIn stated items) {constraints : List LinearConstraint} :
    LinearConstraint.ofValuesFrom position items = .ok constraints ↔
      AreReadAs position stated constraints := by
  unfold AreReadAs
  induction areIn generalizing position constraints with
  | nil =>
      rw [List.zipIdx_nil, List.forall₂_nil_left_iff]
      constructor
      · rintro ⟨rfl⟩
        rfl
      · rintro rfl
        rfl
  | cons said _ inductionHypothesis =>
      obtain ⟨entries, rfl, isIn⟩ := said
      rw [LinearConstraint.ofValuesFrom, List.zipIdx_cons, List.forall₂_cons_left_iff]
      simp only [except_bind_eq_ok_iff, ofValue_eq_ok_iff isIn, inductionHypothesis]
      constructor
      · rintro ⟨first, isReadAs, others, areReadAs, same⟩
        cases same
        exact ⟨first, others, isReadAs, areReadAs, rfl⟩
      · rintro ⟨first, others, isReadAs, areReadAs, rfl⟩
        exact ⟨first, isReadAs, others, areReadAs, rfl⟩

/-- Constraints are read of what is said exactly if all senses are known. -/
theorem exists_areReadAs_iff (position : Nat) {stated : List StatedConstraint} :
    (∃ constraints, AreReadAs position stated constraints) ↔
      ∀ each ∈ stated, ∃ sense : Sense, sense.symbol = each.symbol := by
  unfold AreReadAs
  induction stated generalizing position with
  | nil => simp
  | cons first rest inductionHypothesis =>
      simp only [List.zipIdx_cons, List.forall₂_cons_left_iff, List.forall_mem_cons,
        ← inductionHypothesis (position + 1)]
      constructor
      · rintro ⟨_, constraint, others, isReadAs, areReadAs, _⟩
        exact ⟨⟨constraint.sense, isReadAs.sense⟩, others, areReadAs⟩
      · rintro ⟨⟨sense, known⟩, others, areReadAs⟩
        have isReadAs : first.IsReadAs position
            ⟨.str (first.name.getD s!"c{position}"), first.coefficients.map .int,
              .int first.bound, sense⟩ := ⟨rfl, rfl, rfl, known⟩
        exact ⟨_, _, others, isReadAs, areReadAs, rfl⟩

theorem AreReadAs.length_coefficients {stated : List StatedConstraint}
    {constraints : List LinearConstraint} (areReadAs : AreReadAs position stated constraints)
    (size : Nat) :
    (∀ constraint ∈ constraints, constraint.coefficients.length = size) ↔
      ∀ each ∈ stated, each.coefficients.length = size := by
  unfold AreReadAs at areReadAs
  induction stated generalizing position constraints with
  | nil =>
      rw [List.zipIdx_nil, List.forall₂_nil_left_iff] at areReadAs
      subst areReadAs
      simp
  | cons first rest inductionHypothesis =>
      rw [List.zipIdx_cons, List.forall₂_cons_left_iff] at areReadAs
      obtain ⟨constraint, others, isReadAs, areReadAs, rfl⟩ := areReadAs
      rw [List.forall_mem_cons, List.forall_mem_cons, inductionHypothesis areReadAs,
        isReadAs.coefficients, List.length_map]

end StatedConstraint

/-! ## Limits -/

/-- Limits of the variables on one side: one for all of them, or one for each. -/
inductive StatedLimits where
  | all (limit : Int)
  | each (limits : List Int)

namespace StatedLimits

variable {stated : StatedLimits} {size : Nat}

/-- How limits are said. -/
def value : StatedLimits → Value
  | .all limit => .int limit
  | .each limits => .list (limits.map .int)

/-- There is one limit for all variables, or as many limits as variables. -/
def Covers (size : Nat) : StatedLimits → Prop
  | .all _ => True
  | .each limits => limits.length = size

/-- The limits of the single variables. -/
def spread (size : Nat) : StatedLimits → List Int
  | .all limit => List.replicate size limit
  | .each limits => limits

theorem limits_eq_ok_iff (side : String) {result : List Int} :
    LinearDraft.limits side size stated.value = .ok result ↔
      stated.Covers size ∧ result = stated.spread size := by
  cases stated with
  | all limit =>
      have repeated : LinearDraft.limits side size (.int limit) =
          .ok (List.replicate size limit) := by
        rw [LinearDraft.limits, Value.toInteger_int]
        · rfl
        · intro items same
          cases same
        · intro items same
          cases same
      simp only [value, repeated, Covers, spread, true_and, Except.ok.injEq]
      exact eq_comm
  | each limits =>
      simp only [value, LinearDraft.limits, Covers, spread, List.length_map,
        Value.mapM_toInteger_ints]
      by_cases count : limits.length = size
      · simp only [count, if_true, true_and, Except.ok.injEq]
        exact eq_comm
      · simp [count]

theorem length_spread (covers : stated.Covers size) : (stated.spread size).length = size := by
  cases stated with
  | all limit => exact List.length_replicate
  | each limits => exact covers

theorem not_missesLimits {kind : FaultKind} :
    ¬ LinearDraft.MissesLimits kind size stated.value := by
  intro misses
  cases stated with
  | all limit => exact Value.not_missesInteger_int misses
  | each limits =>
      obtain ⟨_, position, item, found, _, misses⟩ := misses
      rw [List.getElem?_map] at found
      obtain ⟨n, _, rfl⟩ := Option.map_eq_some_iff.mp found
      exact Value.not_missesInteger_int misses

end StatedLimits

/-! ## Checks -/

theorem Direction.ofValue_eq_ok_iff {text : Text} {direction : Direction} :
    Direction.ofValue (.str text) = .ok direction ↔ text.trim.lower ∈ direction.words := by
  have apart : ∀ key ∈ Direction.words .minimise, key ∉ Direction.words .maximise := by decide
  have read : Direction.ofValue (.str text) =
      if text.trim.lower ∈ words .maximise then .ok .maximise
      else if text.trim.lower ∈ words .minimise then .ok .minimise
      else .error (.refusal (.unknownDirection (.str text))) := rfl
  rw [read]
  cases direction with
  | maximise =>
      by_cases large : text.trim.lower ∈ words .maximise
      · simp [large]
      · simp only [large, if_false, iff_false]
        split
        · simp
        · simp
  | minimise =>
      by_cases small : text.trim.lower ∈ words .minimise
      · simp [small, apart _ small]
      · simp only [small, if_false, iff_false]
        split
        · simp
        · simp

namespace LinearDraft

theorem checkRanges_eq_ok_iff {lowers uppers : List Int} {names : List Value}
    (lowerCount : lowers.length = names.length) (upperCount : uppers.length = names.length) :
    checkRanges lowers uppers names = .ok () ↔ List.Forall₂ (· ≤ ·) lowers uppers := by
  refine ⟨fun passed => forall₂_of_checkRanges passed lowerCount upperCount, fun filled => ?_⟩
  -- More names or fewer of them make no difference to ranges that are all filled.
  clear lowerCount upperCount
  induction filled generalizing names with
  | nil => cases names <;> rfl
  | cons ordered _ inductionHypothesis =>
      cases names with
      | nil => rfl
      | cons name names =>
          rw [checkRanges, if_neg (Int.not_lt.mpr ordered)]
          exact inductionHypothesis

theorem checkCoefficients_eq_ok_iff {size : Nat} {constraints : List LinearConstraint} :
    checkCoefficients size constraints = .ok () ↔
      ∀ constraint ∈ constraints, constraint.coefficients.length = size := by
  refine ⟨length_of_checkCoefficients, fun counts => ?_⟩
  induction constraints with
  | nil => rfl
  | cons constraint rest inductionHypothesis =>
      obtain ⟨count, others⟩ := List.forall_mem_cons.mp counts
      rw [checkCoefficients, if_pos count]
      exact inductionHypothesis others

end LinearDraft

/-! ## Problems -/

/-- What is said of a problem: the names of its variables, their weights and limits, its
constraints, and perhaps a direction. -/
structure StatedProblem where
  names : List Text
  objective : List Int
  lower : StatedLimits
  upper : StatedLimits
  constraints : List StatedConstraint
  direction : Option Text

namespace StatedProblem

variable {stated : StatedProblem} {entries : List (Value × Value)} {problem : LinearProblem}

/-- The entries of a map say this of a problem, whatever else is among them.  If there are no
constraints, nothing need be said of them. -/
structure IsIn (stated : StatedProblem) (entries : List (Value × Value)) : Prop where
  names : Entries.get? entries (Value.str "variables") = some (.list (stated.names.map .str))
  objective : Entries.get? entries (Value.str "objective") =
    some (.list (stated.objective.map .int))
  lower : Entries.get? entries (Value.str "lower") = some stated.lower.value
  upper : Entries.get? entries (Value.str "upper") = some stated.upper.value
  constraints :
    (Entries.get? entries (Value.str "constraints") = none ∧ stated.constraints = []) ∨
      ∃ items, Entries.get? entries (Value.str "constraints") = some (.list items) ∧
        StatedConstraint.AreIn stated.constraints items
  direction : Entries.get? entries (Value.str "direction") = stated.direction.map .str

/-- The number of variables. -/
def size (stated : StatedProblem) : Nat :=
  stated.names.length

/-- How the direction is written, or would be. -/
def directionText (stated : StatedProblem) : Text :=
  stated.direction.getD LinearProblem.usualDirection

/-- There are variables, with a weight and limits for each of them, and the senses of the
constraints and the direction are known. -/
structure IsMeasured (stated : StatedProblem) : Prop where
  some : stated.size ≠ 0
  objective : stated.objective.length = stated.size
  lower : stated.lower.Covers stated.size
  upper : stated.upper.Covers stated.size
  senses : ∀ each ∈ stated.constraints, ∃ sense : Sense, sense.symbol = each.symbol
  direction : ∃ direction : Direction, stated.directionText.trim.lower ∈ direction.words

/-- All ranges have something in them, too, and every constraint has a coefficient for each
variable. -/
structure IsWellFormed (stated : StatedProblem) : Prop extends IsMeasured stated where
  ranges : List.Forall₂ (· ≤ ·) (stated.lower.spread stated.size) (stated.upper.spread stated.size)
  coefficients : ∀ each ∈ stated.constraints, each.coefficients.length = stated.size

/-- The first empty range is too long to be written, although all that is looked at before the
ranges is as it should be. -/
structure HasLongRange (stated : StatedProblem) : Prop extends IsMeasured stated where
  meets : LinearDraft.MeetsLongRange (stated.lower.spread stated.size)
    (stated.upper.spread stated.size)

/-- The problem is the one that is said. -/
structure IsReadAs (stated : StatedProblem) (problem : LinearProblem) : Prop where
  names : problem.names = stated.names.map .str
  objective : problem.objective = stated.objective.map .int
  lower : problem.lower = stated.lower.spread stated.size
  upper : problem.upper = stated.upper.spread stated.size
  constraints : StatedConstraint.AreReadAs 0 stated.constraints problem.constraints
  direction : stated.directionText.trim.lower ∈ problem.direction.words

/-- What is said, as a draft with the constraints that are read of it. -/
def draft (stated : StatedProblem) (constraints : List LinearConstraint) : LinearDraft :=
  ⟨.list (stated.names.map .str), .list (stated.objective.map .int), stated.lower.value,
    stated.upper.value, constraints, .str stated.directionText⟩

theorem constraintItems_eq_ok (isIn : stated.IsIn entries) :
    ∃ items, LinearDraft.constraintItems entries = .ok items ∧
      StatedConstraint.AreIn stated.constraints items := by
  unfold LinearDraft.constraintItems Value.fieldOr
  rcases isIn.constraints with ⟨absent, none⟩ | ⟨items, found, areIn⟩
  · rw [absent, none]
    exact ⟨[], rfl, .nil⟩
  · rw [found]
    -- An empty list of constraints counts as none, and none are read of it either.
    cases items with
    | nil => exact ⟨[], rfl, areIn⟩
    | cons item rest => exact ⟨item :: rest, rfl, areIn⟩

theorem draft_eq_ok_iff (isIn : stated.IsIn entries) {draft : LinearDraft} :
    LinearDraft.ofValue (.map entries) = .ok draft ↔
      ∃ constraints, StatedConstraint.AreReadAs 0 stated.constraints constraints ∧
        draft = stated.draft constraints := by
  obtain ⟨items, listed, areIn⟩ := constraintItems_eq_ok isIn
  have names : (stated.names.map Value.str).mapM Value.written = .ok stated.names := by
    rw [Value.mapM_written_eq_ok_iff]
    simp [Function.comp_def]
  have written := Value.fieldOr_eq_str isIn.direction LinearProblem.usualDirection
  rw [LinearDraft.ofValue_eq]
  simp only [except_bind_eq_ok_iff, Value.entries_eq_ok_iff, Value.map.injEq, exists_eq_left',
    listed, Except.ok.injEq, StatedConstraint.ofValuesFrom_eq_ok_iff areIn,
    Value.field_eq_ok isIn.names, Value.field_eq_ok isIn.objective, Value.field_eq_ok isIn.lower,
    Value.field_eq_ok isIn.upper, Value.iterate_list, names, written]
  constructor
  · rintro ⟨constraints, areReadAs, rfl⟩
    exact ⟨constraints, areReadAs, rfl⟩
  · rintro ⟨constraints, areReadAs, rfl⟩
    exact ⟨constraints, areReadAs, rfl⟩

theorem toProblem_draft (stated : StatedProblem) (constraints : List LinearConstraint) :
    (stated.draft constraints).toProblem =
      if stated.size = 0 then .error (.refusal .noVariables)
      else
        LinearDraft.limits "lower" stated.size stated.lower.value >>= fun lower =>
          LinearDraft.limits "upper" stated.size stated.upper.value >>= fun upper =>
            Direction.ofValue (.str stated.directionText) >>= fun direction =>
              if stated.objective.length = stated.size then
                LinearDraft.checkRanges lower upper (stated.names.map .str) >>= fun _ =>
                  LinearDraft.checkCoefficients stated.size constraints >>= fun _ =>
                    .ok ⟨stated.names.map .str, stated.objective.map .int, lower, upper,
                      constraints, direction⟩
              else
                .error (.refusal (.objectiveCount stated.size stated.objective.length)) := by
  rw [LinearDraft.toProblem_eq rfl (List.length_map _) rfl, List.length_map]
  rfl

/-- The checks of a draft whose limits and direction have been read are those of what is said. -/
theorem checkRanges_spread_eq_ok_iff (lower : stated.lower.Covers stated.size)
    (upper : stated.upper.Covers stated.size) :
    LinearDraft.checkRanges (stated.lower.spread stated.size) (stated.upper.spread stated.size)
        (stated.names.map .str) = .ok () ↔
      List.Forall₂ (· ≤ ·) (stated.lower.spread stated.size) (stated.upper.spread stated.size) := by
  apply LinearDraft.checkRanges_eq_ok_iff
  · rw [StatedLimits.length_spread lower, List.length_map]
    rfl
  · rw [StatedLimits.length_spread upper, List.length_map]
    rfl

theorem toProblem_eq_ok_iff {constraints : List LinearConstraint}
    (areReadAs : StatedConstraint.AreReadAs 0 stated.constraints constraints) :
    (stated.draft constraints).toProblem = .ok problem ↔
      stated.IsWellFormed ∧ stated.IsReadAs problem ∧ problem.constraints = constraints := by
  have senses := (StatedConstraint.exists_areReadAs_iff 0).mp ⟨constraints, areReadAs⟩
  rw [toProblem_draft]
  constructor
  · intro made
    by_cases empty : stated.size = 0
    · rw [if_pos empty] at made
      cases made
    · rw [if_neg empty] at made
      simp only [except_bind_eq_ok_iff, StatedLimits.limits_eq_ok_iff,
        Direction.ofValue_eq_ok_iff] at made
      obtain ⟨_, ⟨lower, rfl⟩, _, ⟨upper, rfl⟩, direction, known, made⟩ := made
      split at made
      · rename_i count
        simp only [except_bind_eq_ok_iff] at made
        obtain ⟨⟨⟩, ranges, ⟨⟩, counts, same⟩ := made
        cases same
        have coefficients := LinearDraft.checkCoefficients_eq_ok_iff.mp counts
        refine ⟨?_, ⟨rfl, rfl, rfl, rfl, areReadAs, known⟩, rfl⟩
        exact {
          some := empty
          objective := count
          lower := lower
          upper := upper
          senses := senses
          direction := ⟨direction, known⟩
          ranges := (checkRanges_spread_eq_ok_iff lower upper).mp ranges
          coefficients := (areReadAs.length_coefficients _).mp coefficients }
      · cases made
  · rintro ⟨wellFormed, isReadAs, rfl⟩
    have ranges := (checkRanges_spread_eq_ok_iff wellFormed.lower wellFormed.upper).mpr
      wellFormed.ranges
    have coefficients := (areReadAs.length_coefficients stated.size).mpr wellFormed.coefficients
    rw [if_neg wellFormed.some]
    simp only [if_pos wellFormed.objective, except_bind_eq_ok_iff, StatedLimits.limits_eq_ok_iff,
      Direction.ofValue_eq_ok_iff]
    refine ⟨_, ⟨wellFormed.lower, rfl⟩, _, ⟨wellFormed.upper, rfl⟩, problem.direction,
      isReadAs.direction, (), ranges, (), ?_, ?_⟩
    · exact LinearDraft.checkCoefficients_eq_ok_iff.mpr coefficients
    · rw [← isReadAs.names, ← isReadAs.objective, ← isReadAs.lower, ← isReadAs.upper]

theorem ofValue_eq_ok_iff (isIn : stated.IsIn entries) :
    LinearProblem.ofValue (.map entries) = .ok problem ↔
      stated.IsWellFormed ∧ stated.IsReadAs problem := by
  rw [LinearProblem.ofValue_eq_ok_iff_draft]
  simp only [draft_eq_ok_iff isIn]
  constructor
  · rintro ⟨_, ⟨constraints, areReadAs, rfl⟩, made⟩
    obtain ⟨wellFormed, isReadAs, _⟩ := (toProblem_eq_ok_iff areReadAs).mp made
    exact ⟨wellFormed, isReadAs⟩
  · rintro ⟨wellFormed, isReadAs⟩
    exact ⟨_, ⟨problem.constraints, isReadAs.constraints, rfl⟩,
      (toProblem_eq_ok_iff isReadAs.constraints).mpr ⟨wellFormed, isReadAs, rfl⟩⟩

/-- A problem is read of a definition exactly if what it says is well-formed. -/
theorem exists_ofValue_iff (isIn : stated.IsIn entries) :
    (∃ problem, LinearProblem.ofValue (.map entries) = .ok problem) ↔ stated.IsWellFormed := by
  simp only [ofValue_eq_ok_iff isIn]
  constructor
  · rintro ⟨_, wellFormed, _⟩
    exact wellFormed
  · intro wellFormed
    obtain ⟨constraints, areReadAs⟩ :=
      (StatedConstraint.exists_areReadAs_iff 0).mpr wellFormed.senses
    obtain ⟨direction, known⟩ := wellFormed.direction
    have isReadAs : stated.IsReadAs
        ⟨stated.names.map .str, stated.objective.map .int, stated.lower.spread stated.size,
          stated.upper.spread stated.size, constraints, direction⟩ :=
      ⟨rfl, rfl, rfl, rfl, areReadAs, known⟩
    exact ⟨_, wellFormed, isReadAs⟩

/-! ## Definitions that are not well-formed -/

theorem not_hasLongText (isIn : stated.IsIn entries) :
    ¬ LinearDraft.HasLongText (.map entries) := by
  obtain ⟨items, listed, areIn⟩ := constraintItems_eq_ok isIn
  rintro ⟨_, _, ⟨rfl⟩, sameItems, long⟩
  rw [listed] at sameItems
  cases sameItems
  rcases long with ⟨_, item, found, _, long⟩ | ⟨_, _, _, given, iterated, name, member, unwritable⟩
  · obtain ⟨each, entries, rfl, isIn⟩ := areIn.forall_exists item (List.mem_of_getElem? found)
    exact StatedConstraint.not_hasLongText isIn long
  · rw [Value.field_eq_ok isIn.names] at given
    cases given
    cases iterated
    obtain ⟨text, _, rfl⟩ := List.mem_map.mp member
    cases unwritable

theorem length_names_draft (stated : StatedProblem) (constraints : List LinearConstraint) :
    (stated.draft constraints).names.length = .ok stated.size :=
  congrArg Except.ok (List.length_map _)

theorem length_objective_draft (stated : StatedProblem) (constraints : List LinearConstraint) :
    (stated.draft constraints).objective.length = .ok stated.objective.length :=
  congrArg Except.ok (List.length_map _)

/-- The only thing in a definition that is met as a fault other than a refusal is an empty range
that is too long. -/
theorem escapes_iff (isIn : stated.IsIn entries) {kind : FaultKind} :
    LinearProblem.Escapes (.map entries) kind ↔ stated.HasLongRange ∧ kind = .valueError := by
  constructor
  · intro escaping
    cases escaping with
    | text long => exact absurd long (not_hasLongText isIn)
    | draft drafted counted some weighed escaping =>
        obtain ⟨constraints, areReadAs, rfl⟩ := (draft_eq_ok_iff isIn).mp drafted
        rw [length_names_draft] at counted
        rw [length_objective_draft] at weighed
        cases counted
        cases weighed
        have senses := (StatedConstraint.exists_areReadAs_iff 0).mp ⟨constraints, areReadAs⟩
        cases escaping with
        | lower misses => exact absurd misses StatedLimits.not_missesLimits
        | upper _ misses => exact absurd misses StatedLimits.not_missesLimits
        | direction _ _ long => cases long
        | @range _ _ direction readLower readUpper known count meets =>
            obtain ⟨lower, rfl⟩ := (StatedLimits.limits_eq_ok_iff "lower").mp readLower
            obtain ⟨upper, rfl⟩ := (StatedLimits.limits_eq_ok_iff "upper").mp readUpper
            have measured : stated.IsMeasured :=
              ⟨some, count, lower, upper, senses, direction, Direction.ofValue_eq_ok_iff.mp known⟩
            exact ⟨⟨measured, meets⟩, rfl⟩
  · rintro ⟨long, rfl⟩
    obtain ⟨constraints, areReadAs⟩ :=
      (StatedConstraint.exists_areReadAs_iff 0).mpr long.senses
    obtain ⟨direction, known⟩ := long.direction
    have drafted := (draft_eq_ok_iff isIn).mpr ⟨constraints, areReadAs, rfl⟩
    have readLower := (StatedLimits.limits_eq_ok_iff "lower").mpr ⟨long.lower, rfl⟩
    have readUpper := (StatedLimits.limits_eq_ok_iff "upper").mpr ⟨long.upper, rfl⟩
    have readDirection := Direction.ofValue_eq_ok_iff.mpr known
    exact .draft drafted (length_names_draft stated constraints) long.some
      (length_objective_draft stated constraints)
      (.range readLower readUpper readDirection long.objective long.meets)

theorem failsWith_invalidConfiguration_iff (isIn : stated.IsIn entries) :
    FailsWith .invalidConfiguration (LinearProblem.ofValue (.map entries)) ↔
      ¬ stated.IsWellFormed ∧ ¬ stated.HasLongRange := by
  have settles : LinearProblem.Settles (.map entries) ↔ ¬ stated.HasLongRange := by
    rw [LinearProblem.settles_iff]
    simp only [escapes_iff isIn, not_and]
    constructor
    · intro calm long
      exact calm .valueError long rfl
    · intro short _ long
      exact absurd long short
  constructor
  · intro refused
    refine ⟨fun wellFormed => ?_, settles.mp (Or.inr refused)⟩
    obtain ⟨problem, read⟩ := (exists_ofValue_iff isIn).mpr wellFormed
    rw [read] at refused
    exact not_failsWith_ok problem refused
  · rintro ⟨malformed, short⟩
    refine (settles.mpr short).resolve_left ?_
    rw [exists_ofValue_iff isIn]
    exact malformed

/-- A definition that says what a problem is to be gives a problem exactly if what it says is
well-formed.  That problem is the one that is said, and all its lists have the sizes they should
have.  Otherwise the definition is refused, unless its first empty range is too long to be written
and nothing else was found to be wrong before. -/
theorem ofValue_isIn (isIn : stated.IsIn entries) :
    ((∃ problem, LinearProblem.ofValue (.map entries) = .ok problem) ↔ stated.IsWellFormed) ∧
      (∀ problem, LinearProblem.ofValue (.map entries) = .ok problem →
        stated.IsReadAs problem ∧ problem.IsWellFormed) ∧
      (FailsWith .invalidConfiguration (LinearProblem.ofValue (.map entries)) ↔
        ¬ stated.IsWellFormed ∧ ¬ stated.HasLongRange) ∧
      (FailsWith .valueError (LinearProblem.ofValue (.map entries)) ↔ stated.HasLongRange) := by
  refine ⟨exists_ofValue_iff isIn, fun problem read => ?_, failsWith_invalidConfiguration_iff isIn,
    ?_⟩
  · exact ⟨((ofValue_eq_ok_iff isIn).mp read).2, (LinearProblem.of_ofValue read).1⟩
  · rw [LinearProblem.failsWith_ofValue_iff rfl, escapes_iff isIn]
    exact and_iff_left rfl

end StatedProblem

/-! ## Saying it -/

/-- The entry of a text that may be missing. -/
def textEntry (name : String) (said : Option Text) : List (Value × Value) :=
  (said.map fun text => (.str name, .str text)).toList

/-- The entries that say what is said of a constraint. -/
def StatedConstraint.entries (stated : StatedConstraint) : List (Value × Value) :=
  textEntry "name" stated.name ++
    [(.str "coefficients", .list (stated.coefficients.map .int)),
      (.str "bound", .int stated.bound)] ++
      textEntry "sense" stated.sense

theorem StatedConstraint.isIn_entries (stated : StatedConstraint) : stated.IsIn stated.entries := by
  obtain ⟨name, coefficients, bound, sense⟩ := stated
  cases name with
  | none =>
      cases sense with
      | none => exact ⟨rfl, rfl, rfl, rfl⟩
      | some sense => exact ⟨rfl, rfl, rfl, rfl⟩
  | some name =>
      cases sense with
      | none => exact ⟨rfl, rfl, rfl, rfl⟩
      | some sense => exact ⟨rfl, rfl, rfl, rfl⟩

namespace StatedProblem

/-- The entries that say what is said of a problem. -/
def entries (stated : StatedProblem) : List (Value × Value) :=
  [(.str "variables", .list (stated.names.map .str)),
    (.str "objective", .list (stated.objective.map .int)),
    (.str "lower", stated.lower.value),
    (.str "upper", stated.upper.value),
    (.str "constraints", .list (stated.constraints.map fun each => .map each.entries))] ++
      textEntry "direction" stated.direction

/-- Everything that can be said of a problem is said by some entries. -/
theorem isIn_entries (stated : StatedProblem) : stated.IsIn stated.entries := by
  have areIn : StatedConstraint.AreIn stated.constraints
      (stated.constraints.map fun each => .map each.entries) := by
    unfold StatedConstraint.AreIn
    rw [List.forall₂_map_right_iff, List.forall₂_same]
    intro each _
    exact ⟨each.entries, rfl, each.isIn_entries⟩
  obtain ⟨names, objective, lower, upper, constraints, direction⟩ := stated
  cases direction with
  | none => exact ⟨rfl, rfl, rfl, rfl, Or.inr ⟨_, rfl, areIn⟩, rfl⟩
  | some direction => exact ⟨rfl, rfl, rfl, rfl, Or.inr ⟨_, rfl, areIn⟩, rfl⟩

/-- Two variables with one lower limit for both, an upper limit for each, and a constraint without a
name or a sense. -/
def twoVariables : StatedProblem where
  names := ["x1", "x2"]
  objective := [350, 300]
  lower := .all 1
  upper := .each [174, 174]
  constraints := [⟨none, [1, 1], 200, none⟩]
  direction := some " Maximise "

theorem isWellFormed_twoVariables : twoVariables.IsWellFormed where
  some := by decide
  objective := rfl
  lower := trivial
  upper := rfl
  senses := List.forall_mem_singleton.mpr ⟨.atMost, rfl⟩
  direction := ⟨.maximise, by decide⟩
  ranges := .cons (by decide) (.cons (by decide) .nil)
  coefficients := List.forall_mem_singleton.mpr rfl

theorem ofValue_isIn_twoVariables :
    ∃ problem, LinearProblem.ofValue (.map twoVariables.entries) = .ok problem ∧
      problem.lower = [1, 1] ∧ problem.upper = [174, 174] ∧
      (∃ first, problem.constraints = [first] ∧ first.name = .str "c0") ∧
      problem.IsWellFormed := by
  obtain ⟨accepted, readAs, _⟩ := ofValue_isIn twoVariables.isIn_entries
  obtain ⟨problem, read⟩ := accepted.mpr isWellFormed_twoVariables
  obtain ⟨isReadAs, formed⟩ := readAs problem read
  obtain ⟨first, none, named, empty, same⟩ :=
    List.forall₂_cons_left_iff.mp isReadAs.constraints
  rw [List.forall₂_nil_left_iff.mp empty] at same
  exact ⟨problem, read, isReadAs.lower, isReadAs.upper, ⟨first, same, named.name⟩, formed⟩

/-- One variable that is to lie above an integer with too many digits, and below five. -/
def longRange : StatedProblem where
  names := ["x"]
  objective := [1]
  lower := .all (Int.ofNat (Nat.pow 16 3600))
  upper := .all 5
  constraints := []
  direction := none

theorem hasLongRange_longRange : longRange.HasLongRange where
  some := by decide
  objective := rfl
  lower := trivial
  upper := trivial
  senses := List.forall_mem_nil _
  direction := ⟨.maximise, by decide⟩
  meets := by
    have empty : (5 : Int) < Int.ofNat (Nat.pow 16 3600) := by decide +kernel
    have long : (Value.int (Int.ofNat (Nat.pow 16 3600))).isWritable = false := by decide +kernel
    exact .here empty (Or.inl long)

/-- An empty range with a long limit is no reason to refuse a definition. -/
theorem not_refused_longRange :
    longRange.IsIn longRange.entries ∧ ¬ longRange.IsWellFormed ∧
      ¬ FailsWith .invalidConfiguration (LinearProblem.ofValue (.map longRange.entries)) := by
  have isIn := longRange.isIn_entries
  refine ⟨isIn, fun wellFormed => ?_, fun refused => ?_⟩
  · have filled : Int.ofNat (Nat.pow 16 3600) ≤ 5 := (List.forall₂_cons.mp wellFormed.ranges).1
    have empty : ¬ Int.ofNat (Nat.pow 16 3600) ≤ 5 := by decide +kernel
    exact empty filled
  · have short := ((failsWith_invalidConfiguration_iff isIn).mp refused).2
    exact short hasLongRange_longRange

end StatedProblem

end RandomSearch
