import RandomSearch.Proofs.LinearFailures
import RandomSearch.Proofs.Refusals

/-!
# Definitions that are refused

A value from which no problem can be read is refused, unless what is wrong with it is met as a fault
that is no refusal.  Such a fault comes of the texts of a definition, of its limits, or of an empty
range whose limits are too long for the message about it.  The first thing that is wrong decides.
-/

namespace RandomSearch

/-! ## Constraints -/

namespace LinearConstraint

variable {kind : FaultKind} {position : Nat}

theorem make_of_texts (name sense : Text) (coefficients : List Value) (bound : Value) :
    make (.str name) (.list coefficients) bound (.str sense) =
      match Sense.ofSymbol? sense with
      | some known => .ok ⟨.str name, coefficients, bound, known⟩
      | none => .error (.refusal (.unknownSense (.str name) (.str sense))) := by
  have key : Value.checkKey (.str sense) = .ok () := rfl
  cases known : Sense.ofSymbol? sense with
  | some known =>
      simp only [make, key, known]
      rfl
  | none =>
      simp only [make, key, known]
      rfl

/-- What is said of a constraint has an integer with too many digits in its name, or in its sense
although nothing else is missing. -/
def HasLongText (position : Nat) (item : Value) : Prop :=
  ∃ entries, item = .map entries ∧
    ((Value.fieldOr entries "name" (.str s!"c{position}")).isWritable = false ∨
      (∃ given, Value.field entries "coefficients" = .ok given ∧
        ∃ coefficients, given.iterate = .ok coefficients) ∧
      (∃ bound, Value.field entries "bound" = .ok bound) ∧
      (Value.fieldOr entries "sense" (.str usualSense)).isWritable = false)

theorem failsWith_ofValue_iff (escapes : kind.isRefused = false) {item : Value} :
    FailsWith kind (ofValue position item) ↔ HasLongText position item ∧ kind = .valueError := by
  have made : ∀ name sense coefficients bound,
      ¬ FailsWith kind (make (.str name) (.list coefficients) bound (.str sense)) := by
    intro name sense coefficients bound
    rw [make_of_texts]
    cases Sense.ofSymbol? sense with
    | some known => exact not_failsWith_ok _
    | none => simp [failsWith_refusal_iff escapes, Rejection.values]
  unfold ofValue HasLongText
  simp only [failsWith_bind_iff, Value.not_failsWith_entries escapes,
    Value.not_failsWith_field escapes, Value.not_failsWith_iterate escapes,
    Value.failsWith_written_iff, Value.entries_eq_ok_iff, Value.written_eq_ok_iff, made, false_or,
    and_false, exists_false, or_false]
  constructor
  · rintro ⟨entries, rfl, ⟨long, rfl⟩ | ⟨_, _, given, found, later⟩⟩
    · exact ⟨⟨entries, rfl, Or.inl long⟩, rfl⟩
    · obtain ⟨items, listed, bound, bounded, long, rfl⟩ := later
      exact ⟨⟨entries, rfl, Or.inr ⟨⟨given, found, items, listed⟩, ⟨bound, bounded⟩, long⟩⟩, rfl⟩
  · rintro ⟨⟨entries, rfl, long⟩, rfl⟩
    refine ⟨entries, rfl, ?_⟩
    by_cases unwritable : (Value.fieldOr entries "name" (.str s!"c{position}")).isWritable = false
    · exact Or.inl ⟨unwritable, rfl⟩
    · obtain ⟨⟨given, found, items, listed⟩, ⟨bound, bounded⟩, long⟩ := long.resolve_left unwritable
      have writable := Bool.eq_true_of_not_eq_false unwritable
      exact Or.inr ⟨_, ⟨writable, rfl⟩, given, found, items, listed, bound, bounded, long, rfl⟩

theorem ofValuesFrom_eq (items : List Value) :
    ofValuesFrom position items =
      (items.zipIdx position).mapM fun numbered => ofValue numbered.2 numbered.1 := by
  induction items generalizing position with
  | nil => rfl
  | cons item rest inductionHypothesis =>
      rw [ofValuesFrom, List.zipIdx_cons, List.mapM_cons, inductionHypothesis]

/-- The first of the listed constraints that cannot be read holds an integer with too many digits in
a text. -/
def MeetsLongText (items : List Value) : Prop :=
  ∃ position item, items[position]? = some item ∧
    (∃ constraints, ofValuesFrom 0 (items.take position) = .ok constraints) ∧
    HasLongText position item

theorem failsWith_ofValuesFrom_iff (escapes : kind.isRefused = false) {items : List Value} :
    FailsWith kind (ofValuesFrom 0 items) ↔ MeetsLongText items ∧ kind = .valueError := by
  have numbered : ∀ position, (items.zipIdx).take position = (items.take position).zipIdx := by
    intro position
    apply List.ext_getElem?
    intro index
    simp only [List.getElem?_take, List.getElem?_zipIdx]
    split
    · rfl
    · rfl
  rw [ofValuesFrom_eq, failsWith_mapM_iff]
  unfold MeetsLongText
  simp only [numbered, failsWith_ofValue_iff escapes, ofValuesFrom_eq, List.getElem?_zipIdx,
    Option.map_eq_some_iff, Nat.zero_add]
  constructor
  · rintro ⟨position, _, ⟨item, found, rfl⟩, earlier, long, sort⟩
    exact ⟨⟨position, item, found, earlier, long⟩, sort⟩
  · rintro ⟨⟨position, item, found, earlier, long⟩, sort⟩
    exact ⟨position, _, ⟨item, found, rfl⟩, earlier, long, sort⟩

end LinearConstraint

/-! ## Limits -/

namespace LinearDraft

variable {kind : FaultKind} {size : Nat}

/-- There are as many limits as variables, of which the first that is no integer is tried as one, or
the one limit of all variables is tried as an integer and is none. -/
def MissesLimits (kind : FaultKind) (size : Nat) : Value → Prop
  | .list items | .tuple items => items.length = size ∧ Value.MeetsNoInteger kind items
  | value => value.MissesInteger kind

theorem failsWith_limits_iff (escapes : kind.isRefused = false) {side : String} {given : Value} :
    FailsWith kind (limits side size given) ↔ MissesLimits kind size given := by
  have listed : ∀ items : List Value,
      FailsWith kind (if items.length = size then items.mapM Value.toInteger
        else .error (.refusal (.limitCount side size items.length))) ↔
          items.length = size ∧ Value.MeetsNoInteger kind items := by
    intro items
    by_cases count : items.length = size
    · rw [if_pos count, Value.failsWith_mapM_toInteger_iff escapes]
      exact (and_iff_right count).symm
    · rw [if_neg count, failsWith_refusal_iff escapes]
      simp [Rejection.values, count]
  have single : ∀ value : Value,
      FailsWith kind (do return List.replicate size (← value.toInteger)) ↔
        value.MissesInteger kind := by
    intro value
    rw [failsWith_bind_iff, Value.failsWith_toInteger_iff escapes]
    refine or_iff_left ?_
    rintro ⟨_, _, fails⟩
    exact absurd fails (not_failsWith_ok _)
  cases given with
  | list items | tuple items => exact listed items
  | _ => exact single _

/-! ## Ranges -/

/-- The first range with nothing in it has a limit with too many digits. -/
inductive MeetsLongRange : List Int → List Int → Prop
  | here {lower upper : Int} {lowers uppers : List Int} (empty : upper < lower)
      (long : (Value.int lower).isWritable = false ∨ (Value.int upper).isWritable = false) :
      MeetsLongRange (lower :: lowers) (upper :: uppers)
  | later {lower upper : Int} {lowers uppers : List Int} (filled : lower ≤ upper)
      (later : MeetsLongRange lowers uppers) : MeetsLongRange (lower :: lowers) (upper :: uppers)

theorem failsWith_checkRanges_iff (escapes : kind.isRefused = false) {lowers uppers : List Int}
    {names : List Text} (lowerCount : lowers.length = names.length)
    (upperCount : uppers.length = names.length) :
    FailsWith kind (checkRanges lowers uppers (names.map .str)) ↔
      MeetsLongRange lowers uppers ∧ kind = .valueError := by
  induction names generalizing lowers uppers with
  | nil =>
      rw [List.length_eq_zero_iff.mp lowerCount, List.length_eq_zero_iff.mp upperCount]
      refine iff_of_false (not_failsWith_ok ()) ?_
      rintro ⟨⟨⟩, _⟩
  | cons name names inductionHypothesis =>
      obtain ⟨lower, lowers, rfl⟩ := List.exists_cons_of_length_eq_add_one lowerCount
      obtain ⟨upper, uppers, rfl⟩ := List.exists_cons_of_length_eq_add_one upperCount
      have later := inductionHypothesis (Nat.succ.inj lowerCount) (Nat.succ.inj upperCount)
      rw [List.map_cons, checkRanges]
      by_cases empty : upper < lower
      · rw [if_pos empty, failsWith_refusal_iff escapes]
        simp only [Rejection.values, List.mem_cons, List.not_mem_nil, or_false, exists_eq_or_imp,
          exists_eq_left, Value.isWritable_str, Bool.true_eq_false, false_or]
        refine and_congr_left fun _ => ⟨.here empty, ?_⟩
        rintro (⟨_, long⟩ | ⟨filled, _⟩)
        · exact long
        · exact absurd empty (Int.not_lt.mpr filled)
      · rw [if_neg empty, later]
        refine and_congr_left fun _ => ⟨.later (Int.not_lt.mp empty), ?_⟩
        rintro (⟨present, _⟩ | ⟨_, later⟩)
        · exact absurd present empty
        · exact later

theorem not_failsWith_checkCoefficients (escapes : kind.isRefused = false)
    {constraints : List LinearConstraint}
    (named : ∀ given ∈ constraints, ∃ name, given.name = .str name) :
    ¬ FailsWith kind (checkCoefficients size constraints) := by
  induction constraints with
  | nil => exact not_failsWith_ok ()
  | cons constraint rest inductionHypothesis =>
      obtain ⟨⟨name, same⟩, restNamed⟩ := List.forall_mem_cons.mp named
      rw [checkCoefficients]
      split
      · exact inductionHypothesis restNamed
      · simp [failsWith_refusal_iff escapes, Rejection.values, same]

/-! ## Drafts -/

theorem failsWith_direction_iff (escapes : kind.isRefused = false) {given : Value} :
    FailsWith kind (Direction.ofValue given) ↔ given.isWritable = false ∧ kind = .valueError := by
  unfold Direction.ofValue
  rw [failsWith_bind_iff, Value.failsWith_written_iff]
  refine or_iff_left ?_
  rintro ⟨text, written, fails⟩
  have writable := (Value.written_eq_ok_iff.mp written).1
  dsimp only at fails
  split at fails
  · exact absurd fails (not_failsWith_ok _)
  · split at fails
    · exact absurd fails (not_failsWith_ok _)
    · obtain ⟨⟨value, member, unwritable⟩, _⟩ := (failsWith_refusal_iff escapes).mp fails
      rw [List.mem_singleton.mp member] at unwritable
      cases unwritable.symm.trans writable

/-- What is wrong with a draft of the given numbers of variables and weights is met as a fault that
is no refusal. -/
inductive Escapes (draft : LinearDraft) (size weights : Nat) : FaultKind → Prop
  | lower {kind : FaultKind} (misses : MissesLimits kind size draft.lower) :
      Escapes draft size weights kind
  | upper {kind : FaultKind} {lower : List Int}
      (readLower : limits "lower" size draft.lower = .ok lower)
      (misses : MissesLimits kind size draft.upper) : Escapes draft size weights kind
  | direction {lower upper : List Int} (readLower : limits "lower" size draft.lower = .ok lower)
      (readUpper : limits "upper" size draft.upper = .ok upper)
      (long : draft.direction.isWritable = false) : Escapes draft size weights .valueError
  | range {lower upper : List Int} {direction : Direction}
      (readLower : limits "lower" size draft.lower = .ok lower)
      (readUpper : limits "upper" size draft.upper = .ok upper)
      (known : Direction.ofValue draft.direction = .ok direction) (count : weights = size)
      (meets : MeetsLongRange lower upper) : Escapes draft size weights .valueError

variable {draft : LinearDraft} {objective : List Value}

theorem toProblem_eq {names : List Value} {size : Nat} (named : draft.names = .list names)
    (counted : names.length = size) (weighed : draft.objective = .list objective) :
    draft.toProblem =
      if size = 0 then .error (.refusal .noVariables)
      else
        limits "lower" size draft.lower >>= fun lower =>
          limits "upper" size draft.upper >>= fun upper =>
            Direction.ofValue draft.direction >>= fun direction =>
              if objective.length = size then
                checkRanges lower upper names >>= fun _ =>
                  checkCoefficients size draft.constraints >>= fun _ =>
                    .ok ⟨names, objective, lower, upper, draft.constraints, direction⟩
              else
                .error (.refusal (.objectiveCount size objective.length)) := by
  have measured : draft.names.length = .ok size := by
    rw [named, ← counted]
    rfl
  have listed : draft.names.iterate = .ok names := by
    rw [named]
    rfl
  have weights : draft.objective.iterate = .ok objective := by
    rw [weighed]
    rfl
  unfold toProblem
  rw [measured, listed, weights]
  change (if size = 0 then _ else _) = _
  by_cases empty : size = 0
  · rw [if_pos empty, if_pos empty]
    rfl
  · rw [if_neg empty, if_neg empty]
    refine bind_congr (x := limits "lower" size draft.lower) fun lower => ?_
    refine bind_congr fun upper => bind_congr fun direction => ?_
    by_cases count : objective.length = size
    · rw [if_pos count, if_neg (not_not.mpr count)]
      rfl
    · rw [if_neg count, if_pos count]
      rfl

/-- A draft whose variables and constraints have texts for names. -/
structure IsNamed (draft : LinearDraft) (names : List Text) : Prop where
  names : draft.names = .list (names.map .str)
  constraints : ∀ given ∈ draft.constraints, ∃ name, given.name = .str name

/-- The checks made when the limits have been read fail with nothing but a refusal, unless the first
empty range is too long to be written. -/
theorem failsWith_checks_iff (escapes : kind.isRefused = false) {names : List Text}
    (named : draft.IsNamed names) {lower upper : List Int}
    (lowerCount : lower.length = names.length) (upperCount : upper.length = names.length)
    (direction : Direction) :
    FailsWith kind
        (if objective.length = names.length then
          checkRanges lower upper (names.map .str) >>= fun _ =>
            checkCoefficients names.length draft.constraints >>= fun _ =>
              .ok (⟨names.map .str, objective, lower, upper, draft.constraints, direction⟩ :
                LinearProblem)
        else
          .error (.refusal (.objectiveCount names.length objective.length))) ↔
      objective.length = names.length ∧ MeetsLongRange lower upper ∧ kind = .valueError := by
  by_cases count : objective.length = names.length
  · rw [if_pos count]
    simp only [failsWith_bind_iff, failsWith_checkRanges_iff escapes lowerCount upperCount,
      not_failsWith_checkCoefficients escapes named.constraints, not_failsWith_ok, count]
    simp
  · rw [if_neg count, failsWith_refusal_iff escapes]
    simp [Rejection.values, count]

theorem failsWith_toProblem_iff (escapes : kind.isRefused = false) {names : List Text}
    (named : draft.IsNamed names) (weighed : draft.objective = .list objective) :
    FailsWith kind draft.toProblem ↔
      names.length ≠ 0 ∧ Escapes draft names.length objective.length kind := by
  rw [toProblem_eq named.names (List.length_map _) weighed]
  by_cases empty : names.length = 0
  · rw [if_pos empty, failsWith_refusal_iff escapes]
    simp [Rejection.values, empty]
  · rw [if_neg empty, and_iff_right empty]
    simp only [failsWith_bind_iff, failsWith_limits_iff escapes, failsWith_direction_iff escapes]
    -- The checks come one after the other, so that each is reached only if those before it pass.
    constructor
    · rintro (misses | ⟨lower, readLower, misses | ⟨upper, readUpper, ⟨long, rfl⟩ | later⟩⟩)
      · exact .lower misses
      · exact .upper readLower misses
      · exact .direction readLower readUpper long
      · obtain ⟨direction, known, fails⟩ := later
        obtain ⟨count, meets, rfl⟩ := (failsWith_checks_iff escapes named
          (length_limits readLower) (length_limits readUpper) direction).mp fails
        exact .range readLower readUpper known count meets
    · intro escaping
      cases escaping with
      | lower misses => exact Or.inl misses
      | upper readLower misses => exact Or.inr ⟨_, readLower, Or.inl misses⟩
      | direction readLower readUpper long =>
          exact Or.inr ⟨_, readLower, Or.inr ⟨_, readUpper, Or.inl ⟨long, rfl⟩⟩⟩
      | @range lower upper direction readLower readUpper known count meets =>
          have fails := (failsWith_checks_iff escapes named (length_limits readLower)
            (length_limits readUpper) direction).mpr ⟨count, meets, rfl⟩
          exact Or.inr ⟨_, readLower, Or.inr ⟨_, readUpper, Or.inr ⟨_, known, fails⟩⟩⟩

/-! ## What is read of a definition -/

/-- The constraints that a definition lists, if it lists any. -/
def constraintItems (entries : List (Value × Value)) : Except Fault (List Value) :=
  let listed := Value.fieldOr entries "constraints" .null
  if listed.truthy then listed.iterate else .ok []

theorem not_failsWith_constraintItems (escapes : kind.isRefused = false)
    {entries : List (Value × Value)} : ¬ FailsWith kind (constraintItems entries) := by
  unfold constraintItems
  dsimp only
  split
  · exact Value.not_failsWith_iterate escapes
  · exact not_failsWith_ok []

theorem ofValue_eq (data : Value) :
    ofValue data =
      data.entries >>= fun entries =>
        constraintItems entries >>= fun items =>
          LinearConstraint.ofValuesFrom 0 items >>= fun constraints =>
            Value.field entries "variables" >>= fun given =>
              given.iterate >>= fun listed =>
                listed.mapM Value.written >>= fun names =>
                  Value.field entries "objective" >>= fun weights =>
                    weights.iterate >>= fun objective =>
                      Value.field entries "lower" >>= fun lower =>
                        Value.field entries "upper" >>= fun upper =>
                          .ok ⟨.list (names.map .str), .list objective, lower, upper, constraints,
                            Value.fieldOr entries "direction"
                              (.str LinearProblem.usualDirection)⟩ := by
  unfold ofValue constraintItems
  refine bind_congr fun entries => ?_
  -- Without constraints nothing is iterated, which leaves a branch of its own to the reading.
  dsimp only
  split
  · rfl
  · rfl

/-- The names of constraints or variables, or the senses of constraints, hold an integer with too
many digits, and everything before it can be read. -/
def HasLongText (data : Value) : Prop :=
  ∃ entries items, data = .map entries ∧ constraintItems entries = .ok items ∧
    (LinearConstraint.MeetsLongText items ∨
      (∃ constraints, LinearConstraint.ofValuesFrom 0 items = .ok constraints) ∧
        ∃ given names, Value.field entries "variables" = .ok given ∧ given.iterate = .ok names ∧
          ∃ name ∈ names, name.isWritable = false)

theorem failsWith_ofValue_iff (escapes : kind.isRefused = false) {data : Value} :
    FailsWith kind (ofValue data) ↔ HasLongText data ∧ kind = .valueError := by
  rw [ofValue_eq]
  simp only [failsWith_bind_iff, Value.not_failsWith_entries escapes,
    not_failsWith_constraintItems escapes, LinearConstraint.failsWith_ofValuesFrom_iff escapes,
    Value.not_failsWith_field escapes, Value.not_failsWith_iterate escapes,
    Value.failsWith_mapM_written_iff, Value.entries_eq_ok_iff, not_failsWith_ok, false_or,
    and_false, exists_false, or_false, HasLongText]
  constructor
  · rintro ⟨entries, rfl, items, listed, ⟨long, rfl⟩ | ⟨constraints, read, later⟩⟩
    · exact ⟨⟨entries, items, rfl, listed, Or.inl long⟩, rfl⟩
    · obtain ⟨given, found, names, iterated, long, rfl⟩ := later
      exact ⟨⟨entries, items, rfl, listed,
        Or.inr ⟨⟨constraints, read⟩, given, names, found, iterated, long⟩⟩, rfl⟩
  · rintro ⟨⟨entries, items, rfl, listed, long | ⟨⟨constraints, read⟩, later⟩⟩, rfl⟩
    · exact ⟨entries, rfl, items, listed, Or.inl ⟨long, rfl⟩⟩
    · obtain ⟨given, names, found, iterated, long⟩ := later
      exact ⟨entries, rfl, items, listed,
        Or.inr ⟨constraints, read, given, found, names, iterated, long, rfl⟩⟩

theorem isNamed_of_ofValue {data : Value} (drafted : ofValue data = .ok draft) :
    ∃ names objective, draft.IsNamed names ∧ draft.objective = .list objective := by
  have constraints := LinearProblem.exists_name_of_draft drafted
  rw [ofValue_eq] at drafted
  simp only [except_bind_eq_ok_iff] at drafted
  obtain ⟨_, _, _, _, _, _, _, _, _, _, names, _, _, _, objective, _, _, _, _, _, same⟩ := drafted
  cases same
  exact ⟨names, objective, ⟨rfl, constraints⟩, rfl⟩

end LinearDraft

/-! ## Definitions -/

theorem Fault.isRefused_kind_iff (fault : Fault) :
    fault.kind.isRefused = true ↔ fault.kind = .invalidConfiguration ∨ fault.isShape = true := by
  unfold isShape
  cases fault.kind with
  | _ => decide

namespace LinearProblem

variable {kind : FaultKind} {data : Value}

/-- What is wrong with a definition is met as a fault that is no refusal. -/
inductive Escapes (data : Value) : FaultKind → Prop
  | text (long : LinearDraft.HasLongText data) : Escapes data .valueError
  | draft {kind : FaultKind} {draft : LinearDraft} {size weights : Nat}
      (drafted : LinearDraft.ofValue data = .ok draft) (counted : draft.names.length = .ok size)
      (some : size ≠ 0) (weighed : draft.objective.length = .ok weights)
      (escapes : draft.Escapes size weights kind) : Escapes data kind

theorem failsWith_ofValue_iff_draft (escapes : kind.isRefused = false) :
    FailsWith kind (ofValue data) ↔
      FailsWith kind (LinearDraft.ofValue data >>= LinearDraft.toProblem) := by
  unfold ofValue
  cases LinearDraft.ofValue data >>= LinearDraft.toProblem with
  | ok problem => exact Iff.rfl
  | error fault =>
      dsimp only
      by_cases shape : fault.isShape = true
      · have caught := fault.isRefused_kind_iff.mpr (Or.inr shape)
        rw [if_pos shape, failsWith_error_iff, failsWith_error_iff]
        refine iff_of_false ?_ ?_
        · rintro rfl
          cases escapes
        · rintro rfl
          cases escapes.symm.trans caught
      · rw [if_neg shape]

theorem failsWith_ofValue_iff (escapes : kind.isRefused = false) :
    FailsWith kind (ofValue data) ↔ Escapes data kind := by
  rw [failsWith_ofValue_iff_draft escapes, failsWith_bind_iff,
    LinearDraft.failsWith_ofValue_iff escapes]
  constructor
  · rintro (⟨long, rfl⟩ | ⟨draft, drafted, fails⟩)
    · exact .text long
    · obtain ⟨names, objective, named, weighed⟩ := LinearDraft.isNamed_of_ofValue drafted
      have unmade := (LinearDraft.failsWith_toProblem_iff escapes named weighed).mp fails
      obtain ⟨some, escaping⟩ := unmade
      have counted : draft.names.length = .ok names.length := by
        rw [named.names, ← List.length_map Value.str]
        rfl
      have weights : draft.objective.length = .ok objective.length := by
        rw [weighed]
        rfl
      exact .draft drafted counted some weights escaping
  · intro escaping
    cases escaping with
    | text long => exact Or.inl ⟨long, rfl⟩
    | draft drafted counted some weights escaping =>
        obtain ⟨names, objective, named, weighed⟩ := LinearDraft.isNamed_of_ofValue drafted
        rw [named.names] at counted
        rw [weighed] at weights
        cases counted
        cases weights
        rw [List.length_map] at some escaping
        have fails := (LinearDraft.failsWith_toProblem_iff escapes named weighed).mpr
          ⟨some, escaping⟩
        exact Or.inr ⟨_, drafted, fails⟩

/-! ## What becomes of definitions -/

/-- What comes out of reading a definition other than a refusal has no fitting value, or
overflows. -/
theorem Escapes.kind_eq (escaping : Escapes data kind) :
    kind = .valueError ∨ kind = .overflowError := by
  have limits : ∀ {size : Nat} {given : Value}, LinearDraft.MissesLimits kind size given →
      kind = .valueError ∨ kind = .overflowError := by
    intro size given misses
    have missed : ∃ value : Value, value.MissesInteger kind := by
      cases given with
      | list items | tuple items =>
          obtain ⟨_, _, item, _, _, misses⟩ := misses
          exact ⟨item, misses⟩
      | _ => exact ⟨_, misses⟩
    obtain ⟨value, misses⟩ := missed
    cases misses with
    | text | undefined => exact Or.inl rfl
    | infinite => exact Or.inr rfl
  cases escaping with
  | text => exact Or.inl rfl
  | draft _ _ _ _ escaping =>
      cases escaping with
      | lower misses => exact limits misses
      | upper _ misses => exact limits misses
      | direction | range => exact Or.inl rfl

theorem Escapes.isRefused_eq_false (escaping : Escapes data kind) : kind.isRefused = false := by
  rcases escaping.kind_eq with rfl | rfl
  · rfl
  · rfl

/-- A problem is read of a definition, or the definition is refused. -/
def Settles (data : Value) : Prop :=
  (∃ problem, ofValue data = .ok problem) ∨ FailsWith .invalidConfiguration (ofValue data)

theorem not_isShape_of_ofValue {fault : Fault} (failed : ofValue data = .error fault) :
    fault.isShape = false := by
  unfold ofValue at failed
  split at failed
  · cases failed
  · rw [← Except.error.inj failed]
    split
    · rfl
    · rename_i shape
      exact Bool.eq_false_of_not_eq_true shape

theorem settles_iff : Settles data ↔ ∀ kind, ¬ Escapes data kind := by
  unfold Settles
  constructor
  · intro settled kind escaping
    have escapes := escaping.isRefused_eq_false
    obtain ⟨fault, failed, rfl⟩ := (failsWith_ofValue_iff escapes).mpr escaping
    rw [failed] at settled
    rcases settled with ⟨_, same⟩ | refused
    · cases same
    · rw [failsWith_error_iff.mp refused] at escapes
      cases escapes
  · intro calm
    cases read : ofValue data with
    | ok problem => exact Or.inl ⟨problem, rfl⟩
    | error fault =>
        refine Or.inr (failsWith_error_iff.mpr ?_)
        by_cases refused : fault.kind.isRefused = true
        · have shape := not_isShape_of_ofValue read
          refine (fault.isRefused_kind_iff.mp refused).resolve_right ?_
          rw [shape]
          exact Bool.false_ne_true
        · have escapes := Bool.eq_false_of_not_eq_true refused
          exact absurd ((failsWith_ofValue_iff escapes).mp ⟨fault, read, rfl⟩) (calm fault.kind)

/-- Whatever is given for a definition, a problem is read of it or it is refused, unless what is
wrong with it is met as something that has no fitting value, or as an overflow.  Those are the only
other faults, and the definitions they come of are known. -/
theorem ofValue_settles (data : Value) :
    (Settles data ↔ ∀ kind, ¬ Escapes data kind) ∧
    (∀ kind, kind.isRefused = false → (FailsWith kind (ofValue data) ↔ Escapes data kind)) ∧
    (∀ kind, Escapes data kind → kind = .valueError ∨ kind = .overflowError) :=
  ⟨settles_iff, fun _ escapes => failsWith_ofValue_iff escapes, fun _ escaping => escaping.kind_eq⟩

/-- A definition with one variable, which is to be drawn from the given limits. -/
def withLimits (lower upper : Value) : Value :=
  .map [
    (.str "variables", .list [.str "x1"]),
    (.str "objective", .list [.int 1]),
    (.str "lower", lower),
    (.str "upper", upper)]

theorem ofValue_lettered :
    ofValue (withLimits (.str "a") (.int 9)) = .error (.ofValue (.notIntegerText 10 "a")) := by
  rfl

theorem ofValue_settles_lettered :
    Escapes (withLimits (.str "a") (.int 9)) .valueError ∧
      Settles (withLimits (.list []) (.int 9)) ∧
      ∀ kind, ¬ Escapes (withLimits (.list []) (.int 9)) kind := by
  obtain ⟨_, failures, _⟩ := ofValue_settles (withLimits (.str "a") (.int 9))
  obtain ⟨settles, _, _⟩ := ofValue_settles (withLimits (.list []) (.int 9))
  have miscounted : Settles (withLimits (.list []) (.int 9)) := Or.inr ⟨_, rfl, rfl⟩
  refine ⟨(failures .valueError rfl).mp ⟨_, ofValue_lettered, rfl⟩, miscounted, ?_⟩
  exact settles.mp miscounted

theorem ofValue_endless :
    ofValue (withLimits (.int 0) (.float (1.0 / 0.0))) = .error (.ofValue .infiniteAsInteger) := by
  rfl

theorem not_settles_of_error {fault : Fault} (failed : ofValue data = .error fault)
    (other : fault.kind ≠ .invalidConfiguration) : ¬ Settles data := by
  unfold Settles
  rw [failed]
  rintro (⟨_, same⟩ | refused)
  · cases same
  · exact other (failsWith_error_iff.mp refused)

/-- A limit that is a letter is no reason to refuse a definition, and neither is an infinite one. -/
theorem not_settles_lettered :
    ¬ Settles (withLimits (.str "a") (.int 9)) ∧
      ¬ Settles (withLimits (.int 0) (.float (1.0 / 0.0))) := by
  constructor
  · exact not_settles_of_error ofValue_lettered (by decide)
  · exact not_settles_of_error ofValue_endless (by decide)

end LinearProblem

end RandomSearch
