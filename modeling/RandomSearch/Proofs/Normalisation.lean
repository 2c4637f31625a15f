import RandomSearch.Proofs.Reading

/-!
# Reading what has been read

A definition can be written in many ways: one limit for all variables, numbers as texts, parts that
are missing, a direction in any spelling.  The problem that is read of it can be listed part by
part, and whoever reads that list finds the same problem.  Where no number is undefined, a problem
is also equal to itself.
-/

namespace RandomSearch

/-! ## Values without undefined numbers -/

namespace Value

/-- No number in a value is undefined, however deep it lies. -/
inductive IsDefined : Value → Prop where
  | null : IsDefined .null
  | bool (b : Bool) : IsDefined (.bool b)
  | int (n : Int) : IsDefined (.int n)
  | float {x : Float} (defined : (Number.float x).point ≠ .undefined) : IsDefined (.float x)
  | str (text : Text) : IsDefined (.str text)
  | list {items : List Value} (each : ∀ item ∈ items, IsDefined item) : IsDefined (.list items)
  | tuple {items : List Value} (each : ∀ item ∈ items, IsDefined item) : IsDefined (.tuple items)
  | map {entries : List (Value × Value)} (keys : ∀ entry ∈ entries, IsDefined entry.1)
      (values : ∀ entry ∈ entries, IsDefined entry.2) : IsDefined (.map entries)

theorem equals_number_self {number : Number} (defined : number.point ≠ .undefined) :
    number.equals number = true := by
  rw [Number.equals, Number.compare?]
  cases same : number.point with
  | undefined => exact absurd same defined
  | finite value => simp [Extended.compare?]
  | negativeInfinity => rfl
  | positiveInfinity => rfl

theorem equalItems_self {items : List Value} (each : ∀ item ∈ items, item.equals item = true) :
    equalItems items items = true := by
  induction items with
  | nil => rfl
  | cons item rest inductionHypothesis =>
      obtain ⟨first, others⟩ := List.forall_mem_cons.mp each
      rw [equalItems, first, inductionHypothesis others]
      rfl

theorem equalEntries_of_subset {rest entries : List (Value × Value)}
    (among : ∀ entry ∈ rest, entry ∈ entries)
    (keys : ∀ entry ∈ entries, entry.1.equals entry.1 = true)
    (values : ∀ entry ∈ entries, entry.2.equals entry.2 = true) :
    equalEntries rest entries = true := by
  induction rest with
  | nil => rfl
  | cons entry rest inductionHypothesis =>
      obtain ⟨key, value⟩ := entry
      obtain ⟨present, later⟩ := List.forall_mem_cons.mp among
      have found : (entries.any fun entry =>
          key.equals entry.1 && value.equals entry.2) = true := by
        refine List.any_eq_true.mpr ⟨(key, value), present, ?_⟩
        exact Bool.and_eq_true_iff.mpr ⟨keys _ present, values _ present⟩
      rw [equalEntries, found, inductionHypothesis later]
      rfl

theorem IsDefined.equals_self {value : Value} (defined : value.IsDefined) :
    value.equals value = true := by
  induction defined with
  | null => rfl
  | bool b =>
      exact @equals_number_self (.int (if b then 1 else 0)) fun undefined => by cases undefined
  | int n => exact @equals_number_self (.int n) fun undefined => by cases undefined
  | float defined => exact equals_number_self defined
  | str text => exact beq_self_eq_true text
  | list _ inductionHypothesis => exact equalItems_self inductionHypothesis
  | tuple _ inductionHypothesis => exact equalItems_self inductionHypothesis
  | map _ _ keys values =>
      rw [equals, beq_self_eq_true, Bool.true_and]
      exact equalEntries_of_subset (fun entry member => member) keys values

/-! ## Parts of values -/

theorem IsDefined.get? {entries : List (Value × Value)} (defined : (Value.map entries).IsDefined)
    {key found : Value} (got : Entries.get? entries key = some found) : found.IsDefined := by
  cases defined with
  | map keys values =>
      obtain ⟨entry, present, rfl⟩ := Option.map_eq_some_iff.mp got
      exact values entry (List.mem_of_find?_eq_some present)

theorem IsDefined.field {entries : List (Value × Value)}
    (defined : (Value.map entries).IsDefined) {name : String} {found : Value}
    (got : Value.field entries name = .ok found) : found.IsDefined := by
  unfold Value.field at got
  split at got
  · rename_i present
    cases got
    exact defined.get? present
  · cases got

theorem IsDefined.iterate {value : Value} (defined : value.IsDefined) {items : List Value}
    (got : value.iterate = .ok items) : ∀ item ∈ items, item.IsDefined := by
  cases defined with
  | list each =>
      cases got
      exact each
  | tuple each =>
      cases got
      exact each
  | map keys values =>
      cases got
      exact List.forall_mem_map.mpr keys
  | str text =>
      cases got
      exact List.forall_mem_map.mpr fun point _ => .str [point]
  | null => cases got
  | bool b => cases got
  | int n => cases got
  | float undefined => cases got

/-- A value lists items, as a list or as a tuple. -/
def Lists (value : Value) (items : List Value) : Prop :=
  value = .list items ∨ value = .tuple items

theorem Lists.iterate {value : Value} {items : List Value} (lists : value.Lists items) :
    value.iterate = .ok items := by
  rcases lists with rfl | rfl
  · rfl
  · rfl

theorem Lists.truthy {value : Value} {items : List Value} (lists : value.Lists items) :
    value.truthy = !items.isEmpty := by
  rcases lists with rfl | rfl
  · rfl
  · rfl

end Value

/-! ## Definitions that list a problem -/

/-- The entries of a map list the parts of a constraint, whatever else is among them. -/
structure LinearConstraint.IsListedIn (constraint : LinearConstraint)
    (entries : List (Value × Value)) : Prop where
  name : Entries.get? entries (Value.str "name") = some constraint.name
  coefficients : ∃ value, Entries.get? entries (Value.str "coefficients") = some value ∧
    value.Lists constraint.coefficients
  bound : Entries.get? entries (Value.str "bound") = some constraint.bound
  sense : Entries.get? entries (Value.str "sense") = some (.str constraint.sense.symbol)

/-- The items of a list list the parts of constraints, one after the other. -/
def LinearConstraint.AreListedIn (constraints : List LinearConstraint) (items : List Value) :
    Prop :=
  List.Forall₂ (fun constraint item => ∃ entries, item = .map entries ∧
    constraint.IsListedIn entries) constraints items

/-- The entries of a map list the parts of a problem, whatever else is among them. -/
structure LinearProblem.IsListedIn (problem : LinearProblem) (entries : List (Value × Value)) :
    Prop where
  names : ∃ value, Entries.get? entries (Value.str "variables") = some value ∧
    value.Lists problem.names
  objective : ∃ value, Entries.get? entries (Value.str "objective") = some value ∧
    value.Lists problem.objective
  lower : ∃ value, Entries.get? entries (Value.str "lower") = some value ∧
    value.Lists (problem.lower.map .int)
  upper : ∃ value, Entries.get? entries (Value.str "upper") = some value ∧
    value.Lists (problem.upper.map .int)
  direction : Entries.get? entries (Value.str "direction") = some (.str problem.direction.word)
  constraints : ∃ value items, Entries.get? entries (Value.str "constraints") = some value ∧
    value.Lists items ∧ LinearConstraint.AreListedIn problem.constraints items

/-! ## Reading them -/

namespace LinearConstraint

theorem ofValue_of_isListedIn {constraint : LinearConstraint} {entries : List (Value × Value)}
    (listed : constraint.IsListedIn entries) {name : Text} (named : constraint.name = .str name)
    (position : Nat) : ofValue position (.map entries) = .ok constraint := by
  obtain ⟨value, found, lists⟩ := listed.coefficients
  have nameFound : Entries.get? entries (Value.str "name") = (some name).map Value.str := by
    rw [listed.name, named]
    rfl
  have senseFound : Entries.get? entries (Value.str "sense") =
      (some constraint.sense.symbol).map Value.str := listed.sense
  simp only [ofValue, Value.entries, bind, Except.bind]
  rw [Value.fieldOr_eq_str nameFound, Value.fieldOr_eq_str senseFound,
    Value.field_eq_ok found, Value.field_eq_ok listed.bound]
  simp only [lists.iterate]
  change make (.str name) (.list constraint.coefficients) constraint.bound
    (.str constraint.sense.symbol) = _
  rw [make_of_texts, Sense.ofSymbol?_symbol, ← named]

theorem ofValuesFrom_of_areListedIn {constraints : List LinearConstraint} {items : List Value}
    (listed : AreListedIn constraints items)
    (named : ∀ constraint ∈ constraints, ∃ name, constraint.name = .str name) (position : Nat) :
    ofValuesFrom position items = .ok constraints := by
  unfold AreListedIn at listed
  induction listed generalizing position with
  | nil => rfl
  | cons here _ inductionHypothesis =>
      obtain ⟨entries, rfl, isListed⟩ := here
      obtain ⟨⟨name, same⟩, others⟩ := List.forall_mem_cons.mp named
      rw [ofValuesFrom, ofValue_of_isListedIn isListed same position]
      change (ofValuesFrom (position + 1) _ >>= _) = _
      rw [inductionHypothesis others (position + 1)]
      rfl

end LinearConstraint

namespace LinearProblem

variable {problem : LinearProblem} {entries : List (Value × Value)}

theorem constraintItems_of_isListedIn (listed : problem.IsListedIn entries) :
    ∃ items, LinearDraft.constraintItems entries = .ok items ∧
      LinearConstraint.AreListedIn problem.constraints items := by
  obtain ⟨value, items, found, lists, areListed⟩ := listed.constraints
  refine ⟨items, ?_, areListed⟩
  unfold LinearDraft.constraintItems Value.fieldOr
  rw [found]
  change (if value.truthy then value.iterate else .ok []) = .ok items
  rw [lists.truthy, lists.iterate]
  cases items with
  | nil => rfl
  | cons item rest => rfl

theorem limits_of_lists {side : String} {value : Value} {limits : List Int}
    (lists : value.Lists (limits.map .int)) :
    LinearDraft.limits side limits.length value = .ok limits := by
  rcases lists with rfl | rfl
  · rw [LinearDraft.limits, List.length_map, if_pos rfl, Value.mapM_toInteger_ints]
  · rw [LinearDraft.limits, List.length_map, if_pos rfl, Value.mapM_toInteger_ints]

theorem draft_of_isListedIn (listed : problem.IsListedIn entries) {names : List Text}
    (named : problem.names = names.map .str)
    (texts : ∀ constraint ∈ problem.constraints, ∃ name, constraint.name = .str name) :
    ∃ lower upper, LinearDraft.ofValue (.map entries) =
        .ok ⟨.list problem.names, .list problem.objective, lower, upper, problem.constraints,
          .str problem.direction.word⟩ ∧
      lower.Lists (problem.lower.map .int) ∧ upper.Lists (problem.upper.map .int) := by
  obtain ⟨items, constraintItems, areListed⟩ := constraintItems_of_isListedIn listed
  obtain ⟨given, givenFound, givenLists⟩ := listed.names
  obtain ⟨weights, weightsFound, weightsList⟩ := listed.objective
  obtain ⟨lower, lowerFound, lowerLists⟩ := listed.lower
  obtain ⟨upper, upperFound, upperLists⟩ := listed.upper
  refine ⟨lower, upper, ?_, lowerLists, upperLists⟩
  have written : problem.names.mapM Value.written = .ok names := by
    rw [named, Value.mapM_written_eq_ok_iff]
    simp [Function.comp_def]
  have word : Value.fieldOr entries "direction" (.str usualDirection) =
      .str problem.direction.word := by
    rw [Value.fieldOr, listed.direction]
    rfl
  -- Each entry is looked up in the place where the parts of a draft are read.
  rw [LinearDraft.ofValue_eq]
  simp only [except_bind_eq_ok_iff, Value.entries_eq_ok_iff, Value.map.injEq, exists_eq_left',
    constraintItems, LinearConstraint.ofValuesFrom_of_areListedIn areListed texts,
    Value.field_eq_ok givenFound, Value.field_eq_ok weightsFound,
    Value.field_eq_ok lowerFound, Value.field_eq_ok upperFound, givenLists.iterate,
    weightsList.iterate, written, word, Except.ok.injEq]
  rw [named]

/-- A well-formed problem is read of any definition that lists its parts. -/
theorem ofValue_of_isListedIn (listed : problem.IsListedIn entries) {names : List Text}
    (named : problem.names = names.map .str) (some : names ≠ [])
    (formed : problem.IsWellFormed)
    (texts : ∀ constraint ∈ problem.constraints, ∃ name, constraint.name = .str name) :
    ofValue (.map entries) = .ok problem := by
  obtain ⟨lower, upper, drafted, lowerLists, upperLists⟩ :=
    draft_of_isListedIn listed named texts
  refine ofValue_eq_ok_iff_draft.mpr ⟨_, drafted, ?_⟩
  have size : problem.names.length ≠ 0 := by
    rw [named, List.length_map]
    exact fun none => some (List.length_eq_zero_iff.mp none)
  have upperCount : problem.upper.length = problem.names.length :=
    formed.ranges.length_eq.symm.trans formed.lower
  have readLower : LinearDraft.limits "lower" problem.lower.length lower = .ok problem.lower :=
    limits_of_lists lowerLists
  have readUpper : LinearDraft.limits "upper" problem.upper.length upper = .ok problem.upper :=
    limits_of_lists upperLists
  have known : Direction.ofValue (.str problem.direction.word) = .ok problem.direction := by
    rw [Direction.ofValue_eq_ok_iff]
    cases problem.direction with
    | maximise => decide
    | minimise => decide
  have ranges := (LinearDraft.checkRanges_eq_ok_iff formed.lower upperCount).mpr formed.ranges
  have counts := LinearDraft.checkCoefficients_eq_ok_iff.mpr formed.coefficients
  rw [formed.lower] at readLower
  rw [upperCount] at readUpper
  rw [LinearDraft.toProblem_eq rfl rfl rfl, if_neg size]
  simp only [except_bind_eq_ok_iff, formed.objective, if_true]
  exact ⟨_, readLower, _, readUpper, _, known, (), ranges, (), counts, rfl⟩

/-- Names and weights pass the checks as they are. -/
theorem parts_of_toProblem {draft : LinearDraft} {names : List Text} {objective : List Value}
    (named : draft.names = .list (names.map .str)) (weighed : draft.objective = .list objective)
    (made : draft.toProblem = .ok problem) :
    names ≠ [] ∧ problem.names = names.map .str ∧ problem.objective = objective := by
  rw [LinearDraft.toProblem_eq named (List.length_map _) weighed] at made
  split at made
  · cases made
  · rename_i some
    simp only [except_bind_eq_ok_iff] at made
    obtain ⟨_, _, _, _, _, _, made⟩ := made
    split at made
    · simp only [except_bind_eq_ok_iff] at made
      obtain ⟨_, _, _, _, same⟩ := made
      cases same
      exact ⟨fun none => some (by rw [none]; rfl), rfl, rfl⟩
    · cases made

theorem exists_names_of_ofValue {data : Value} (read : ofValue data = .ok problem) :
    ∃ names : List Text, names ≠ [] ∧ problem.names = names.map .str := by
  obtain ⟨draft, drafted, made⟩ := ofValue_eq_ok_iff_draft.mp read
  obtain ⟨names, _, named, weighed⟩ := LinearDraft.isNamed_of_ofValue drafted
  obtain ⟨some, same, -⟩ := parts_of_toProblem named.names weighed made
  exact ⟨names, some, same⟩

end LinearProblem

/-! ## Problems that are equal to themselves -/

namespace LinearConstraint

theorem equals_self_of_ofValue {item : Value} (defined : item.IsDefined) {position : Nat}
    {constraint : LinearConstraint} (read : ofValue position item = .ok constraint) :
    constraint.equals constraint = true := by
  simp only [ofValue, except_bind_eq_ok_iff, Value.entries_eq_ok_iff] at read
  obtain ⟨entries, rfl, name, _, given, found, coefficients, iterated, bound, bounded, sense, _,
    made⟩ := read
  have weights : Value.equalItems coefficients coefficients = true :=
    Value.equalItems_self fun coefficient member =>
      ((defined.field found).iterate iterated coefficient member).equals_self
  have limit : bound.equals bound = true := (defined.field bounded).equals_self
  rw [make_of_texts] at made
  split at made
  · cases made
    rw [equals, (Value.IsDefined.str name).equals_self, weights, limit, beq_self_eq_true]
    rfl
  · cases made

theorem equalConstraints_self_of_ofValuesFrom {items : List Value}
    (defined : ∀ item ∈ items, item.IsDefined) {position : Nat}
    {constraints : List LinearConstraint} (read : ofValuesFrom position items = .ok constraints) :
    LinearProblem.equalConstraints constraints constraints = true := by
  induction items generalizing position constraints with
  | nil =>
      cases read
      rfl
  | cons item rest inductionHypothesis =>
      obtain ⟨itemDefined, restDefined⟩ := List.forall_mem_cons.mp defined
      simp only [ofValuesFrom, except_bind_eq_ok_iff] at read
      obtain ⟨constraint, first, others, later, same⟩ := read
      cases same
      rw [LinearProblem.equalConstraints, equals_self_of_ofValue itemDefined first,
        inductionHypothesis restDefined later]
      rfl

end LinearConstraint

namespace LinearProblem

variable {problem : LinearProblem}

theorem isDefined_of_constraintItems {entries : List (Value × Value)}
    (defined : (Value.map entries).IsDefined) {items : List Value}
    (listed : LinearDraft.constraintItems entries = .ok items) :
    ∀ item ∈ items, item.IsDefined := by
  have value : (Value.fieldOr entries "constraints" .null).IsDefined := by
    unfold Value.fieldOr
    cases found : Entries.get? entries (Value.str "constraints") with
    | none => exact .null
    | some value => exact defined.get? found
  unfold LinearDraft.constraintItems at listed
  dsimp only at listed
  split at listed
  · exact value.iterate listed
  · cases listed
    exact List.forall_mem_nil _

theorem equals_self_of_ofValue {data : Value} (defined : data.IsDefined)
    (read : ofValue data = .ok problem) : problem.equals problem = true := by
  obtain ⟨draft, drafted, made⟩ := ofValue_eq_ok_iff_draft.mp read
  obtain ⟨_, passes⟩ := LinearDraft.exists_passes_of_toProblem made
  simp only [LinearDraft.ofValue_eq, except_bind_eq_ok_iff, Value.entries_eq_ok_iff] at drafted
  obtain ⟨entries, rfl, items, listed, constraints, readConstraints, _, _, _, _, names, _, weights,
    found, objective, iterated, _, _, _, _, same⟩ := drafted
  cases same
  obtain ⟨-, sameNames, rfl⟩ := parts_of_toProblem rfl rfl made
  have namesEqual : Value.equalItems problem.names problem.names = true := by
    rw [sameNames]
    exact Value.equalItems_self (List.forall_mem_map.mpr fun name _ =>
      (Value.IsDefined.str name).equals_self)
  have weightsEqual : Value.equalItems problem.objective problem.objective = true :=
    Value.equalItems_self fun weight member =>
      ((defined.field found).iterate iterated weight member).equals_self
  have constraintsEqual : equalConstraints problem.constraints problem.constraints = true := by
    rw [passes.constraints]
    exact LinearConstraint.equalConstraints_self_of_ofValuesFrom
      (isDefined_of_constraintItems defined listed) readConstraints
  rw [equals, namesEqual, weightsEqual, constraintsEqual, beq_self_eq_true, beq_self_eq_true,
    beq_self_eq_true]
  rfl

end LinearProblem

/-! ## Listing a problem -/

/-- The entries that list the parts of a constraint. -/
def LinearConstraint.entries (constraint : LinearConstraint) : List (Value × Value) :=
  [(.str "name", constraint.name), (.str "coefficients", .list constraint.coefficients),
    (.str "bound", constraint.bound), (.str "sense", .str constraint.sense.symbol)]

namespace LinearProblem

variable {problem : LinearProblem}

/-- The entries that list the parts of a problem. -/
def entries (problem : LinearProblem) : List (Value × Value) :=
  [(.str "variables", .list problem.names), (.str "objective", .list problem.objective),
    (.str "lower", .list (problem.lower.map .int)), (.str "upper", .list (problem.upper.map .int)),
    (.str "direction", .str problem.direction.word),
    (.str "constraints", .list (problem.constraints.map fun each => .map each.entries))]

theorem isListedIn_entries (problem : LinearProblem) : problem.IsListedIn problem.entries where
  names := ⟨_, rfl, Or.inl rfl⟩
  objective := ⟨_, rfl, Or.inl rfl⟩
  lower := ⟨_, rfl, Or.inl rfl⟩
  upper := ⟨_, rfl, Or.inl rfl⟩
  direction := rfl
  constraints := by
    refine ⟨_, _, rfl, Or.inl rfl, ?_⟩
    unfold LinearConstraint.AreListedIn
    rw [List.forall₂_map_right_iff, List.forall₂_same]
    exact fun each _ => ⟨each.entries, rfl, rfl, ⟨_, rfl, Or.inl rfl⟩, rfl, rfl⟩

/-- However a definition says it, the problem that is read of it is read again of every list of its
parts, whatever else that list has in it: it is the same problem, so that it has the same
constraints under the same names and descriptions, and draws and judges alike.  There is such a
list, and if nothing in the definition is undefined, the problem is equal to itself. -/
theorem ofValue_normalises {data : Value} (read : ofValue data = .ok problem) :
    (∀ entries, problem.IsListedIn entries → ofValue (.map entries) = .ok problem) ∧
      problem.IsListedIn problem.entries ∧
      (data.IsDefined → problem.equals problem = true) := by
  obtain ⟨names, some, named⟩ := exists_names_of_ofValue read
  obtain ⟨formed, texts⟩ := of_ofValue read
  exact ⟨fun entries listed => ofValue_of_isListedIn listed named some formed texts,
    problem.isListedIn_entries, fun defined => equals_self_of_ofValue defined read⟩

/-- A definition with truth values for a name and a weight, a text for a limit and a limit with a
fraction, a constraint without a name or a sense, and a direction with blanks and capitals. -/
def loose : Value :=
  .map [(.str "direction", .str " MINimise "), (.str "variables", .tuple [.str "x", .bool true]),
    (.str "objective", .list [.bool true, .int (-3)]), (.str "lower", .str " -1 "),
    (.str "upper", .list [.float 4.5, .bool true]),
    (.str "constraints", .tuple [.map [(.str "bound", .int 5), (.str "coefficients", .str "ab")]])]

theorem isDefined_loose : loose.IsDefined := by
  have half : (Number.float 4.5).point ≠ .undefined := by decide +kernel
  have constraint : (Value.map [(.str "bound", .int 5),
      (.str "coefficients", .str "ab")]).IsDefined := by
    refine .map ?_ ?_
    · simp only [List.forall_mem_cons]
      exact ⟨.str _, .str _, List.forall_mem_nil _⟩
    · simp only [List.forall_mem_cons]
      exact ⟨.int _, .str _, List.forall_mem_nil _⟩
  refine .map ?_ ?_
  · simp only [List.forall_mem_cons]
    exact ⟨.str _, .str _, .str _, .str _, .str _, .str _, List.forall_mem_nil _⟩
  · simp only [List.forall_mem_cons]
    refine ⟨.str _, .tuple ?_, .list ?_, .str _, .list ?_, .tuple ?_, List.forall_mem_nil _⟩
    · exact List.forall_mem_cons.mpr ⟨.str _, List.forall_mem_singleton.mpr (.bool _)⟩
    · exact List.forall_mem_cons.mpr ⟨.bool _, List.forall_mem_singleton.mpr (.int _)⟩
    · exact List.forall_mem_cons.mpr ⟨.float half, List.forall_mem_singleton.mpr (.bool _)⟩
    · exact List.forall_mem_singleton.mpr constraint

theorem ofValue_normalises_loose :
    ∃ problem, ofValue loose = .ok problem ∧
      problem.names = [.str "x", .str "True"] ∧ problem.lower = [-1, -1] ∧
      problem.upper = [4, 1] ∧ problem.direction = .minimise ∧
      ofValue (.map problem.entries) = .ok problem ∧ problem.equals problem = true := by
  have read : ofValue loose = .ok ⟨[.str "x", .str "True"], [.bool true, .int (-3)], [-1, -1],
      [4, 1], [⟨.str "c0", [.str "a", .str "b"], .int 5, .atMost⟩], .minimise⟩ := by rfl
  obtain ⟨again, listed, equal⟩ := ofValue_normalises read
  exact ⟨_, read, rfl, rfl, rfl, rfl, again _ listed, equal isDefined_loose⟩

end LinearProblem

end RandomSearch
