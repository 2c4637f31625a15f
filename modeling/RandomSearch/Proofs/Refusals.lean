import RandomSearch.Proofs.Loading

/-!
# Faults that are no refusals

What is missing from a definition or has the wrong form comes out as a refusal.  Two sorts of faults
do not.  Text that must write an integer and does not, an undefined number that must be an integer,
and an integer with too many digits that must be written have no fitting value.  An infinity that
must be an integer overflows.
-/

namespace RandomSearch

/-! ## Faults by their kinds -/

/-- A kind of faults that come out of reading a definition as refusals. -/
def FaultKind.isRefused : FaultKind → Bool
  | .invalidConfiguration | .keyError | .typeError | .attributeError => true
  | _ => false

/-- The outcome is a fault of the given kind. -/
def FailsWith {α : Type} (kind : FaultKind) (outcome : Except Fault α) : Prop :=
  ∃ fault, outcome = .error fault ∧ fault.kind = kind

section

variable {α β : Type} {kind : FaultKind}

@[simp]
theorem not_failsWith_ok (result : α) : ¬ FailsWith kind (.ok result) := by
  rintro ⟨_, same, _⟩
  cases same

@[simp]
theorem failsWith_error_iff {fault : Fault} :
    FailsWith kind (.error fault : Except Fault α) ↔ fault.kind = kind := by
  constructor
  · rintro ⟨_, ⟨rfl⟩, same⟩
    exact same
  · intro same
    exact ⟨fault, rfl, same⟩

theorem failsWith_bind_iff {given : Except Fault α} {next : α → Except Fault β} :
    FailsWith kind (given >>= next) ↔
      FailsWith kind given ∨ ∃ first, given = .ok first ∧ FailsWith kind (next first) := by
  cases given with
  | ok first =>
      have continued : FailsWith kind (.ok first >>= next) ↔ FailsWith kind (next first) := Iff.rfl
      simp [continued]
  | error fault =>
      have stopped : FailsWith kind (.error fault >>= next) ↔ fault.kind = kind :=
        failsWith_error_iff
      simp [stopped]

/-- A list is read up to the first item that fails. -/
theorem failsWith_mapM_iff {read : α → Except Fault β} {items : List α} :
    FailsWith kind (items.mapM read) ↔
      ∃ position item, items[position]? = some item ∧
        (∃ results, (items.take position).mapM read = .ok results) ∧
          FailsWith kind (read item) := by
  induction items with
  | nil =>
      refine iff_of_false (not_failsWith_ok _) ?_
      rintro ⟨_, _, found, _⟩
      cases found
  | cons first rest inductionHypothesis =>
      rw [List.mapM_cons, failsWith_bind_iff]
      constructor
      · rintro (fails | ⟨result, passed, fails⟩)
        · exact ⟨0, first, rfl, ⟨[], rfl⟩, fails⟩
        · rcases failsWith_bind_iff.mp fails with fails | ⟨_, _, fails⟩
          · have later := inductionHypothesis.mp fails
            obtain ⟨position, item, found, ⟨results, earlier⟩, fails⟩ := later
            refine ⟨position + 1, item, found, ⟨result :: results, ?_⟩, fails⟩
            rw [List.take_succ_cons, List.mapM_cons, passed, earlier]
            rfl
          · exact absurd fails (not_failsWith_ok _)
      · rintro ⟨position, item, found, ⟨results, earlier⟩, fails⟩
        cases position with
        | zero =>
            cases found
            exact Or.inl fails
        | succ position =>
            rw [List.take_succ_cons, List.mapM_cons] at earlier
            obtain ⟨result, passed, earlier⟩ := except_bind_eq_ok_iff.mp earlier
            obtain ⟨others, earlier, _⟩ := except_bind_eq_ok_iff.mp earlier
            have later := inductionHypothesis.mpr ⟨position, item, found, ⟨others, earlier⟩, fails⟩
            exact Or.inr ⟨result, passed, failsWith_bind_iff.mpr (Or.inl later)⟩

/-- What can only be refused fails with no other kind of faults. -/
theorem not_failsWith_of_isRefused {outcome : Except Fault α} (escapes : kind.isRefused = false)
    (refused : ∀ fault, outcome = .error fault → fault.kind.isRefused = true) :
    ¬ FailsWith kind outcome := by
  rintro ⟨fault, failed, rfl⟩
  have caught := refused fault failed
  rw [escapes] at caught
  cases caught

end

/-- What is refused is refused, unless the message would have to write an integer that is too
long. -/
theorem failsWith_refusal_iff {α : Type} {kind : FaultKind} (escapes : kind.isRefused = false)
    {reason : Rejection} :
    FailsWith kind (.error (.refusal reason) : Except Fault α) ↔
      (∃ value ∈ reason.values, value.isWritable = false) ∧ kind = .valueError := by
  rw [failsWith_error_iff]
  unfold Fault.refusal Fault.writing
  by_cases writable : reason.values.all Value.isWritable = true
  · rw [if_pos writable]
    refine iff_of_false ?_ ?_
    · rintro rfl
      cases escapes
    · rintro ⟨⟨value, member, unwritable⟩, _⟩
      have written := List.all_eq_true.mp writable value member
      cases unwritable.symm.trans written
  · rw [if_neg writable]
    have long : ∃ value ∈ reason.values, value.isWritable = false := by
      simpa [List.all_eq_true] using writable
    constructor
    · rintro rfl
      exact ⟨long, rfl⟩
    · rintro ⟨_, rfl⟩
      rfl

/-! ## What values have to offer -/

namespace Value

variable {kind : FaultKind} {value : Value}

theorem not_failsWith_entries (escapes : kind.isRefused = false) :
    ¬ FailsWith kind value.entries := by
  apply not_failsWith_of_isRefused escapes
  intro fault failed
  unfold entries at failed
  split at failed
  · cases failed
  · cases failed
    rfl

theorem not_failsWith_iterate (escapes : kind.isRefused = false) :
    ¬ FailsWith kind value.iterate := by
  apply not_failsWith_of_isRefused escapes
  intro fault failed
  unfold iterate at failed
  split at failed
  · cases failed
  · cases failed
    rfl

theorem not_failsWith_field (escapes : kind.isRefused = false) {entries : List (Value × Value)}
    {name : String} : ¬ FailsWith kind (field entries name) := by
  apply not_failsWith_of_isRefused escapes
  intro fault failed
  unfold field at failed
  split at failed
  · cases failed
  · cases failed
    rfl

theorem entries_eq_ok_iff {entries : List (Value × Value)} :
    value.entries = .ok entries ↔ value = .map entries := by
  constructor
  · intro same
    unfold Value.entries at same
    split at same
    · cases same
      rfl
    · cases same
  · rintro rfl
    rfl

theorem failsWith_written_iff :
    FailsWith kind value.written ↔ value.isWritable = false ∧ kind = .valueError := by
  unfold written
  cases writable : value.isWritable with
  | true => simp
  | false =>
      have long : (Fault.ofValue .integerTooLong).kind = .valueError := rfl
      simp [long, eq_comm]

theorem written_eq_ok_iff {text : Text} :
    value.written = .ok text ↔ value.isWritable = true ∧ text = value.text := by
  unfold written
  cases writable : value.isWritable with
  | true => simp [eq_comm]
  | false => simp

/-! ## Limits that are no integers -/

/-- A value that is tried as an integer and is none: a text that writes no integer or one with too
many digits, an undefined number, or an infinity. -/
inductive MissesInteger : Value → FaultKind → Prop
  | text {s : Text} (unread : ∀ n, Text.readInteger s.toChars ≠ .ok n) :
      MissesInteger (.str s) .valueError
  | undefined {x : Float} (undefined : Extended.ofFloat x = .undefined) :
      MissesInteger (.float x) .valueError
  | infinite {value : Value} (infinite : value.IsInfinite) : MissesInteger value .overflowError

theorem MissesInteger.failsWith_toInteger (misses : value.MissesInteger kind) :
    FailsWith kind value.toInteger := by
  cases misses with
  | @text s unread =>
      cases read : Text.readInteger s.toChars with
      | ok n => exact absurd read (unread n)
      | error reason =>
          cases reason with
          | malformed =>
              exact ⟨.ofValue (.notIntegerText 10 s), by simp only [toInteger, read], rfl⟩
          | tooManyDigits count =>
              exact ⟨.ofValue (.tooManyDigits count), by simp only [toInteger, read], rfl⟩
  | undefined undefined =>
      refine ⟨.ofValue .undefinedAsInteger, ?_, rfl⟩
      simp only [toInteger, number?, Number.point, undefined]
      rfl
  | infinite infinite => exact ⟨_, toInteger_of_isInfinite infinite, rfl⟩

theorem missesInteger_of_failsWith (escapes : kind.isRefused = false)
    (fails : FailsWith kind value.toInteger) : value.MissesInteger kind := by
  cases value with
  | str s =>
      cases read : Text.readInteger s.toChars with
      | ok n =>
          simp only [toInteger, read, not_failsWith_ok] at fails
      | error reason =>
          have unread : ∀ n, Text.readInteger s.toChars ≠ .ok n := by simp [read]
          have sort : kind = .valueError := by
            cases reason with
            | malformed =>
                simp only [toInteger, read, failsWith_error_iff] at fails
                exact fails.symm
            | tooManyDigits count =>
                simp only [toInteger, read, failsWith_error_iff] at fails
                exact fails.symm
          rw [sort]
          exact .text unread
  | float x =>
      cases point : Extended.ofFloat x with
      | finite value =>
          simp only [toInteger, number?, Number.point, point] at fails
          exact absurd fails (not_failsWith_ok _)
      | undefined =>
          simp only [toInteger, number?, Number.point, point] at fails
          rw [← failsWith_error_iff.mp fails]
          exact .undefined point
      | positiveInfinity =>
          simp only [toInteger, number?, Number.point, point] at fails
          rw [← failsWith_error_iff.mp fails]
          exact .infinite ⟨x, rfl, Or.inl point⟩
      | negativeInfinity =>
          simp only [toInteger, number?, Number.point, point] at fails
          rw [← failsWith_error_iff.mp fails]
          exact .infinite ⟨x, rfl, Or.inr point⟩
  | int n =>
      rw [toInteger_int] at fails
      exact absurd fails (not_failsWith_ok n)
  | bool b => exact absurd fails (not_failsWith_ok _)
  | null | list items | tuple items | map entries =>
      rw [← failsWith_error_iff.mp fails] at escapes
      cases escapes

theorem failsWith_toInteger_iff (escapes : kind.isRefused = false) :
    FailsWith kind value.toInteger ↔ value.MissesInteger kind :=
  ⟨missesInteger_of_failsWith escapes, MissesInteger.failsWith_toInteger⟩

/-- The first of some items that is no integer is tried as one. -/
def MeetsNoInteger (kind : FaultKind) (items : List Value) : Prop :=
  ∃ position item, items[position]? = some item ∧
    (∃ integers, (items.take position).mapM toInteger = .ok integers) ∧ item.MissesInteger kind

theorem failsWith_mapM_toInteger_iff (escapes : kind.isRefused = false) {items : List Value} :
    FailsWith kind (items.mapM toInteger) ↔ MeetsNoInteger kind items := by
  simp only [failsWith_mapM_iff, failsWith_toInteger_iff escapes, MeetsNoInteger]

/-! ## Names that cannot be written -/

theorem mapM_written_eq_ok_iff {items : List Value} {texts : List Text} :
    items.mapM written = .ok texts ↔
      (∀ item ∈ items, item.isWritable = true) ∧ texts = items.map Value.text := by
  induction items generalizing texts with
  | nil =>
      constructor
      · rintro ⟨rfl⟩
        exact ⟨List.forall_mem_nil _, rfl⟩
      · rintro ⟨_, rfl⟩
        rfl
  | cons item rest inductionHypothesis =>
      rw [List.mapM_cons]
      simp only [except_bind_eq_ok_iff, written_eq_ok_iff, inductionHypothesis,
        List.forall_mem_cons, List.map_cons]
      constructor
      · rintro ⟨_, ⟨writable, rfl⟩, _, ⟨others, rfl⟩, same⟩
        cases same
        exact ⟨⟨writable, others⟩, rfl⟩
      · rintro ⟨⟨writable, others⟩, rfl⟩
        exact ⟨_, ⟨writable, rfl⟩, _, ⟨others, rfl⟩, rfl⟩

theorem failsWith_mapM_written_iff {items : List Value} :
    FailsWith kind (items.mapM written) ↔
      (∃ item ∈ items, item.isWritable = false) ∧ kind = .valueError := by
  have long : ∀ sort, FailsWith sort (items.mapM written) →
      (∃ item ∈ items, item.isWritable = false) ∧ sort = .valueError := by
    intro sort fails
    obtain ⟨position, item, found, _, fails⟩ := failsWith_mapM_iff.mp fails
    obtain ⟨unwritable, sort⟩ := failsWith_written_iff.mp fails
    exact ⟨⟨item, List.mem_of_getElem? found, unwritable⟩, sort⟩
  constructor
  · exact long kind
  · rintro ⟨⟨item, member, unwritable⟩, rfl⟩
    cases texts : items.mapM written with
    | ok written =>
        have writable := (mapM_written_eq_ok_iff.mp texts).1 item member
        rw [unwritable] at writable
        cases writable
    | error fault =>
        have sort := (long fault.kind ⟨fault, texts, rfl⟩).2
        exact failsWith_error_iff.mpr sort

end Value

end RandomSearch
