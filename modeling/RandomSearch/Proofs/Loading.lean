import RandomSearch.Configuration
import RandomSearch.Proofs.Action
import RandomSearch.Proofs.Order

/-!
# Loading a configuration

Of a document that can be read, either a configuration comes, whose counts are not negative, or a
refusal, with two exceptions.  A field that must be an integer and is infinite is not refused, but
overflows.  A seed that is negative is taken as it is.
-/

namespace RandomSearch

/-! ## Fields that must be integers -/

namespace Value

/-- A float above or below all others. -/
def IsInfinite (value : Value) : Prop :=
  ∃ x, value = .float x ∧
    (Extended.ofFloat x = .positiveInfinity ∨ Extended.ofFloat x = .negativeInfinity)

theorem toInteger_of_isInfinite {value : Value} (infinite : value.IsInfinite) :
    value.toInteger = .error (.ofValue .infiniteAsInteger) := by
  obtain ⟨x, rfl, above | below⟩ := infinite
  · simp only [toInteger, number?, Number.point, above]
    rfl
  · simp only [toInteger, number?, Number.point, below]
    rfl

/-- A value that is no integer shows that a document is malformed, unless it is infinite. -/
theorem isMalformed_of_toInteger {value : Value} {fault : Fault}
    (failed : value.toInteger = .error fault) :
    Configuration.isMalformed fault = true ∨ value.IsInfinite := by
  have fromNumber : ∀ number, value.number? = some number →
      (number.point.truncate.mapError Fault.ofValue = .error fault) →
        Configuration.isMalformed fault = true ∨
          number.point = .positiveInfinity ∨ number.point = .negativeInfinity := by
    intro number _ failed
    cases point : number.point with
    | finite value =>
        rw [point] at failed
        cases failed
    | undefined =>
        rw [point] at failed
        cases failed
        exact Or.inl rfl
    | positiveInfinity => exact Or.inr (Or.inl rfl)
    | negativeInfinity => exact Or.inr (Or.inr rfl)
  cases value with
  | str s =>
      unfold toInteger at failed
      simp only at failed
      split at failed
      · cases failed
      · cases failed
        exact Or.inl rfl
      · cases failed
        exact Or.inl rfl
  | float x =>
      rcases fromNumber (.float x) rfl failed with malformed | infinite
      · exact Or.inl malformed
      · exact Or.inr ⟨x, rfl, infinite⟩
  | int n =>
      rw [toInteger_int] at failed
      cases failed
  | bool b =>
      rcases fromNumber (.int (if b then 1 else 0)) rfl failed with malformed | same | same
      · exact Or.inl malformed
      · cases same
      · cases same
  | null | list items | tuple items | map entries =>
      cases failed
      exact Or.inl rfl

/-! ## Maps -/

theorem isMalformed_of_checkKey {key : Value} {fault : Fault}
    (failed : key.checkKey = .error fault) : Configuration.isMalformed fault = true := by
  unfold checkKey at failed
  split at failed
  · cases failed
  · cases failed
    rfl

theorem isMalformed_of_putPairs {items : List Value} {position : Nat}
    {map : List (Value × Value)} {fault : Fault}
    (failed : putPairs position map items = .error fault) :
    Configuration.isMalformed fault = true := by
  induction items generalizing position map with
  | nil => cases failed
  | cons item rest inductionHypothesis =>
      unfold putPairs at failed
      split at failed
      · cases failed
        rfl
      · rcases except_bind_eq_error_iff.mp failed with keyFailed | ⟨_, _, failed⟩
        · exact isMalformed_of_checkKey keyFailed
        · exact inductionHypothesis failed
      · cases failed
        rfl

theorem isMalformed_of_toMap {value : Value} {fault : Fault}
    (failed : value.toMap = .error fault) : Configuration.isMalformed fault = true := by
  have fromItems : (value.iterate >>= putPairs 0 []) = .error fault →
      Configuration.isMalformed fault = true := by
    intro failed
    rcases except_bind_eq_error_iff.mp failed with notListed | ⟨items, _, failed⟩
    · unfold iterate at notListed
      split at notListed
      · cases notListed
      · cases notListed
        rfl
    · exact isMalformed_of_putPairs failed
  cases value with
  | map entries => cases failed
  | _ => exact fromItems failed

theorem isMalformed_of_field {entries : List (Value × Value)} {name : String} {fault : Fault}
    (failed : field entries name = .error fault) : Configuration.isMalformed fault = true := by
  unfold field at failed
  split at failed
  · cases failed
  · cases failed
    rfl

end Value

namespace Configuration

variable {entries : List (Value × Value)} {config : Configuration} {fault : Fault} {path : Text}

/-! ## What a document says -/

/-- The values of a document that must be integers, in the order in which they are read: the
samples, the workers, and the seed, which may also be missing.  Without samples none of them is
read. -/
def integerFields (entries : List (Value × Value)) : List Value :=
  match Value.field entries "samples_per_worker" with
  | .error _ => []
  | .ok samples =>
      [samples, Value.fieldOr entries "workers" (.int 1), Value.fieldOr entries "seed" .null]

/-- One of some values is infinite, and all before it are integers. -/
inductive MeetsInfinity : List Value → Prop
  | here {value : Value} {rest : List Value} (infinite : value.IsInfinite) :
      MeetsInfinity (value :: rest)
  | later {value : Value} {rest : List Value} {n : Int} (integer : value.toInteger = .ok n)
      (later : MeetsInfinity rest) : MeetsInfinity (value :: rest)

/-- What the entries of a document say about a search: two counts that are not negative, perhaps a
seed, and a problem. -/
structure Reads (entries : List (Value × Value)) (config : Configuration) : Prop where
  samples : ∃ (given : Value) (count : Nat),
    Value.field entries "samples_per_worker" = .ok given ∧ given.toInteger = .ok count ∧
      config.samplesPerWorker = .int count
  workers : ∃ count : Nat, (Value.fieldOr entries "workers" (.int 1)).toInteger = .ok count ∧
    config.workers = .int count
  seed : (Value.fieldOr entries "seed" .null = .null ∧ config.seed = .null) ∨
    ∃ seed : Int, (Value.fieldOr entries "seed" .null).toInteger = .ok seed ∧
      config.seed = .int seed
  useProcesses : config.useProcesses =
    .bool (Value.fieldOr entries "use_processes" (.bool false)).truthy
  problem : ∃ given problem, Value.field entries "problem" = .ok given ∧
    given.toMap = .ok problem ∧ config.problem = .map problem

/-- The counts of a configuration are integers that are not negative, and so is its seed, if it has
one. -/
structure IsCounted (config : Configuration) : Prop where
  samples : ∃ count : Nat, config.samplesPerWorker = .int count
  workers : ∃ count : Nat, config.workers = .int count
  seed : config.seed = .null ∨ ∃ seed : Nat, config.seed = .int seed

/-! ## Counts -/

theorem refuseNegative_int (label : String) (count : Int) :
    refuseNegative label (.int count) =
      if count < 0 then .error (.refusal (.negativeCount label (.int count))) else .ok () := by
  have compared : (Value.int count).compare .lt (.int 0) = .ok (decide (count < 0)) := by
    rw [Value.compare_of_rank .lt (Value.rank?_of_int rfl) (Value.rank?_of_int rfl)]
    exact congrArg Except.ok (decide_eq_decide.mpr (Comparison.relates_ofInt .lt count 0))
  unfold refuseNegative
  rw [compared]
  by_cases negative : count < 0
  · rw [if_pos negative, decide_eq_true negative]
    rfl
  · rw [if_neg negative, decide_eq_false negative]
    rfl

theorem check_eq_ok_iff {samples workers : Int} {seed useProcesses problem : Value} :
    check ⟨.int samples, .int workers, seed, useProcesses, problem⟩ = .ok config ↔
      0 ≤ samples ∧ 0 ≤ workers ∧
        config = ⟨.int samples, .int workers, seed, useProcesses, problem⟩ := by
  unfold check
  simp only [refuseNegative_int]
  by_cases negativeSamples : samples < 0
  · rw [if_pos negativeSamples]
    refine iff_of_false (fun same => by cases same) fun counted => ?_
    omega
  · rw [if_neg negativeSamples]
    by_cases negativeWorkers : workers < 0
    · rw [if_pos negativeWorkers]
      refine iff_of_false (fun same => by cases same) fun counted => ?_
      omega
    · rw [if_neg negativeWorkers]
      constructor
      · intro same
        cases same
        exact ⟨by omega, by omega, rfl⟩
      · rintro ⟨_, _, rfl⟩
        rfl

/-- What is wrong with integer counts is said by a refusal, unless a count is too long to be
said. -/
theorem isRefused_of_check {samples workers : Int} {seed useProcesses problem : Value}
    (failed : check ⟨.int samples, .int workers, seed, useProcesses, problem⟩ = .error fault) :
    isMalformed fault = true ∨ fault.kind = .invalidConfiguration := by
  have refused : ∀ label count, refuseNegative label (.int count) = .error fault →
      isMalformed fault = true ∨ fault.kind = .invalidConfiguration := by
    intro label count failed
    rw [refuseNegative_int] at failed
    split at failed
    · rw [← Except.error.inj failed]
      unfold Fault.refusal Fault.writing
      split
      · exact Or.inr rfl
      · exact Or.inl rfl
    · cases failed
  rcases except_bind_eq_error_iff.mp failed with samplesFailed | ⟨_, _, failed⟩
  · exact refused _ _ samplesFailed
  · rcases except_bind_eq_error_iff.mp failed with workersFailed | ⟨_, _, failed⟩
    · exact refused _ _ workersFailed
    · cases failed

/-! ## Seeds -/

/-- The seed that a value stands for. -/
def readSeed (given : Value) : Except Fault Value :=
  match given with
  | .null => .ok .null
  | _ => given.toInteger.map Value.int

theorem readSeed_of_ne_null {given : Value} (present : given ≠ .null) :
    readSeed given = given.toInteger.map Value.int := by
  cases given with
  | null => exact absurd rfl present
  | _ => rfl

theorem readSeed_eq_ok_iff {given seed : Value} :
    readSeed given = .ok seed ↔
      (given = .null ∧ seed = .null) ∨ ∃ n, given.toInteger = .ok n ∧ seed = .int n := by
  by_cases absent : given = .null
  · subst absent
    constructor
    · intro same
      cases same
      exact Or.inl ⟨rfl, rfl⟩
    · rintro (⟨_, rfl⟩ | ⟨n, same, _⟩)
      · rfl
      · cases same
  · rw [readSeed_of_ne_null absent]
    cases given.toInteger with
    | ok n =>
        constructor
        · intro same
          cases same
          exact Or.inr ⟨n, rfl, rfl⟩
        · rintro (⟨same, _⟩ | ⟨_, ⟨rfl⟩, rfl⟩)
          · exact absurd same absent
          · rfl
    | error fault =>
        constructor
        · intro same
          cases same
        · rintro (⟨same, _⟩ | ⟨_, same, _⟩)
          · exact absurd same absent
          · cases same

theorem toInteger_of_readSeed_error {given : Value} (failed : readSeed given = .error fault) :
    given ≠ .null ∧ given.toInteger = .error fault := by
  by_cases absent : given = .null
  · rw [absent] at failed
    cases failed
  · refine ⟨absent, ?_⟩
    rw [readSeed_of_ne_null absent] at failed
    cases converted : given.toInteger with
    | ok n =>
        rw [converted] at failed
        cases failed
    | error present =>
        rw [converted] at failed
        cases failed
        rfl

/-! ## Entries -/

theorem ofEntries_eq (entries : List (Value × Value)) :
    ofEntries entries =
      Value.field entries "samples_per_worker" >>= fun given =>
        given.toInteger >>= fun samples =>
          (Value.fieldOr entries "workers" (.int 1)).toInteger >>= fun workers =>
            readSeed (Value.fieldOr entries "seed" .null) >>= fun seed =>
              Value.field entries "problem" >>= fun given =>
                given.toMap >>= fun problem =>
                  check ⟨.int samples, .int workers, seed,
                    .bool (Value.fieldOr entries "use_processes" (.bool false)).truthy,
                    .map problem⟩ := by
  unfold ofEntries readSeed
  cases Value.fieldOr entries "seed" .null with
  | null => rfl
  | _ => rfl

/-- A configuration is read from the entries that say it, and from no others. -/
theorem ofEntries_eq_ok_iff : ofEntries entries = .ok config ↔ Reads entries config := by
  rw [ofEntries_eq]
  simp only [except_bind_eq_ok_iff, readSeed_eq_ok_iff, check_eq_ok_iff]
  constructor
  · rintro ⟨given, samplesGiven, samples, samplesRead, workers, workersRead, seed, seedRead,
      list, problemGiven, problem, problemRead, samplesCount, workersCount, rfl⟩
    obtain ⟨samples, rfl⟩ := Int.eq_ofNat_of_zero_le samplesCount
    obtain ⟨workers, rfl⟩ := Int.eq_ofNat_of_zero_le workersCount
    exact {
      samples := ⟨given, samples, samplesGiven, samplesRead, rfl⟩
      workers := ⟨workers, workersRead, rfl⟩
      seed := seedRead
      useProcesses := rfl
      problem := ⟨list, problem, problemGiven, problemRead, rfl⟩ }
  · intro reads
    obtain ⟨given, samples, samplesGiven, samplesRead, samplesSame⟩ := reads.samples
    obtain ⟨workers, workersRead, workersSame⟩ := reads.workers
    obtain ⟨list, problem, problemGiven, problemRead, problemSame⟩ := reads.problem
    refine ⟨given, samplesGiven, samples, samplesRead, workers, workersRead, config.seed,
      reads.seed, list, problemGiven, problem, problemRead, Int.natCast_nonneg samples,
      Int.natCast_nonneg workers, ?_⟩
    have same : config = ⟨config.samplesPerWorker, config.workers, config.seed,
        config.useProcesses, config.problem⟩ := rfl
    rw [same, samplesSame, workersSame, reads.useProcesses, problemSame]

/-- An infinity where an integer must be is what a document fails with, if nothing read before it is
wrong. -/
theorem ofEntries_of_meetsInfinity (meets : MeetsInfinity (integerFields entries)) :
    ofEntries entries = .error (.ofValue .infiniteAsInteger) := by
  rw [ofEntries_eq]
  unfold integerFields at meets
  cases given : Value.field entries "samples_per_worker" with
  | error fault =>
      rw [given] at meets
      cases meets
  | ok samples =>
      rw [given] at meets
      change (samples.toInteger >>= _) = _
      cases meets with
      | here infinite =>
          rw [Value.toInteger_of_isInfinite infinite]
          rfl
      | later integer meets =>
          rw [integer]
          change (Value.toInteger _ >>= _) = _
          cases meets with
          | here infinite =>
              rw [Value.toInteger_of_isInfinite infinite]
              rfl
          | later integer meets =>
              rw [integer]
              change (readSeed _ >>= _) = _
              cases meets with
              | here infinite =>
                  have present : Value.fieldOr entries "seed" .null ≠ .null := by
                    intro absent
                    obtain ⟨_, same, _⟩ := infinite
                    rw [absent] at same
                    cases same
                  rw [readSeed_of_ne_null present, Value.toInteger_of_isInfinite infinite]
                  rfl
              | later _ meets => cases meets

/-- Entries that are no configuration are malformed or refused, unless an infinity is met. -/
theorem isRefused_of_ofEntries (failed : ofEntries entries = .error fault) :
    isMalformed fault = true ∨ fault.kind = .invalidConfiguration ∨
      MeetsInfinity (integerFields entries) := by
  rw [ofEntries_eq] at failed
  unfold integerFields
  rcases except_bind_eq_error_iff.mp failed with failed | ⟨samples, given, failed⟩
  · exact Or.inl (Value.isMalformed_of_field failed)
  rw [given]
  rcases except_bind_eq_error_iff.mp failed with failed | ⟨_, samplesRead, failed⟩
  · exact (Value.isMalformed_of_toInteger failed).imp_right fun infinite =>
      Or.inr (.here infinite)
  rcases except_bind_eq_error_iff.mp failed with failed | ⟨_, workersRead, failed⟩
  · exact (Value.isMalformed_of_toInteger failed).imp_right fun infinite =>
      Or.inr (.later samplesRead (.here infinite))
  rcases except_bind_eq_error_iff.mp failed with failed | ⟨_, _, failed⟩
  · obtain ⟨_, failed⟩ := toInteger_of_readSeed_error failed
    exact (Value.isMalformed_of_toInteger failed).imp_right fun infinite =>
      Or.inr (.later samplesRead (.later workersRead (.here infinite)))
  rcases except_bind_eq_error_iff.mp failed with failed | ⟨_, _, failed⟩
  · exact Or.inl (Value.isMalformed_of_field failed)
  rcases except_bind_eq_error_iff.mp failed with failed | ⟨_, _, failed⟩
  · exact Or.inl (Value.isMalformed_of_toMap failed)
  exact (isRefused_of_check failed).imp_right Or.inl

/-! ## Documents -/

/-- A document is a map in which an infinity stands where an integer must be, with nothing wrong
before it. -/
def Overflows (value : Value) : Prop :=
  ∃ entries, value = .map entries ∧ MeetsInfinity (integerFields entries)

theorem ofValue_eq_ok_iff {value : Value} :
    ofValue path value = .ok config ↔ ∃ entries, value = .map entries ∧ Reads entries config := by
  constructor
  · intro read
    unfold ofValue at read
    split at read
    · rename_i entries
      refine ⟨entries, rfl, ofEntries_eq_ok_iff.mp ?_⟩
      split at read
      · rename_i present same
        rw [same, Except.ok.inj read]
      · cases read
    · cases read
  · rintro ⟨entries, rfl, reads⟩
    unfold ofValue
    simp only [ofEntries_eq_ok_iff.mpr reads]

theorem kind_of_ofValue_error {value : Value} (failed : ofValue path value = .error fault) :
    (fault.kind = .invalidConfiguration ∧ ¬ Overflows value) ∨
      (fault.kind = .overflowError ∧ Overflows value) := by
  unfold ofValue at failed
  split at failed
  · rename_i entries
    split at failed
    · cases failed
    · rename_i present met
      -- An infinity is what the entries fail with if one is met; otherwise the kind is told by the
      -- other faults.
      rw [← Except.error.inj failed]
      by_cases meets : MeetsInfinity (integerFields entries)
      · rw [ofEntries_of_meetsInfinity meets] at met
        rw [← Except.error.inj met]
        exact Or.inr ⟨rfl, entries, rfl, meets⟩
      · have calm : ¬ Overflows (.map entries) := by
          rintro ⟨_, ⟨rfl⟩, later⟩
          exact meets later
        refine Or.inl ⟨?_, calm⟩
        split
        · rfl
        · rename_i wellFormed
          rcases isRefused_of_ofEntries met with malformed | refused | later
          · exact absurd malformed wellFormed
          · exact refused
          · exact absurd later meets
  · rename_i notMap
    rw [← Except.error.inj failed]
    refine Or.inl ⟨rfl, ?_⟩
    rintro ⟨entries, same, _⟩
    exact notMap entries same

theorem ofValue_of_overflows {value : Value} (overflows : Overflows value) :
    ofValue path value = .error (.ofValue .infiniteAsInteger) := by
  obtain ⟨entries, rfl, meets⟩ := overflows
  unfold ofValue
  simp only [ofEntries_of_meetsInfinity meets]
  rfl

/-- A document says a configuration whose seed is negative. -/
def HasNegativeSeed (value : Value) : Prop :=
  ∃ entries config, ∃ seed : Int,
    value = .map entries ∧ Reads entries config ∧ config.seed = .int seed ∧ seed < 0

theorem isCounted_iff_of_reads (reads : Reads entries config) :
    config.IsCounted ↔ ∀ seed : Int, config.seed = .int seed → 0 ≤ seed := by
  constructor
  · intro counted seed same
    rcases counted.seed with absent | ⟨count, counts⟩
    · rw [absent] at same
      cases same
    · rw [counts] at same
      cases same
      exact Int.natCast_nonneg count
  · intro notNegative
    obtain ⟨_, samples, _, _, samplesSame⟩ := reads.samples
    obtain ⟨workers, _, workersSame⟩ := reads.workers
    refine ⟨⟨samples, samplesSame⟩, ⟨workers, workersSame⟩, ?_⟩
    rcases reads.seed with ⟨_, absent⟩ | ⟨seed, _, same⟩
    · exact Or.inl absent
    · obtain ⟨count, rfl⟩ := Int.eq_ofNat_of_zero_le (notNegative seed same)
      exact Or.inr ⟨count, same⟩

/-- What came of loading is a configuration with counts that are not negative, or a refusal. -/
def IsSettled : Except Fault Configuration → Prop
  | .ok config => config.IsCounted
  | .error fault => fault.kind = .invalidConfiguration

theorem isSettled_ofValue_iff {value : Value} :
    IsSettled (ofValue path value) ↔ ¬ Overflows value ∧ ¬ HasNegativeSeed value := by
  cases loaded : ofValue path value with
  | ok config =>
      obtain ⟨entries, rfl, reads⟩ := ofValue_eq_ok_iff.mp loaded
      have calm : ¬ Overflows (.map entries) := by
        intro overflows
        rw [ofValue_of_overflows overflows] at loaded
        cases loaded
      refine (isCounted_iff_of_reads reads).trans ⟨fun notNegative => ⟨calm, ?_⟩, ?_⟩
      · rintro ⟨_, other, seed, ⟨rfl⟩, otherReads, same, negative⟩
        have only : Except.ok other = Except.ok config :=
          (ofEntries_eq_ok_iff.mpr otherReads).symm.trans (ofEntries_eq_ok_iff.mpr reads)
        rw [Except.ok.inj only] at same
        exact absurd (notNegative seed same) (Int.not_le.mpr negative)
      · rintro ⟨_, noNegative⟩ seed same
        by_contra negative
        exact noNegative ⟨entries, config, seed, rfl, reads, same, Int.not_le.mp negative⟩
  | error fault =>
      have noConfiguration : ¬ HasNegativeSeed value := by
        rintro ⟨entries, config, _, rfl, reads, _⟩
        have read : ofValue path (.map entries) = .ok config :=
          ofValue_eq_ok_iff.mpr ⟨entries, rfl, reads⟩
        rw [loaded] at read
        cases read
      change fault.kind = .invalidConfiguration ↔ _
      rcases kind_of_ofValue_error loaded with ⟨refused, calm⟩ | ⟨overflow, overflows⟩
      · exact iff_of_true refused ⟨calm, noConfiguration⟩
      · refine iff_of_false (fun refused => ?_) fun settled => settled.1 overflows
        rw [overflow] at refused
        cases refused

/-- A text that can be read is loaded as its value, whatever that is.  A value gives exactly the
configuration that it says.  Any other value is refused, unless an infinity stands where an integer
must be: then an overflow comes out.  So loading settles all values, with counts that are not
negative or with a refusal, but for those that meet such an infinity and those that say a negative
seed. -/
theorem loading_settles (path : Text) (value : Value) :
    (∀ text, Yaml.read text = .ok value → ofText path text = ofValue path value) ∧
    (∀ config, ofValue path value = .ok config ↔
      ∃ entries, value = .map entries ∧ Reads entries config) ∧
    (∀ fault, ofValue path value = .error fault →
      (fault.kind = .invalidConfiguration ∧ ¬ Overflows value) ∨
        (fault.kind = .overflowError ∧ Overflows value)) ∧
    (IsSettled (ofValue path value) ↔ ¬ Overflows value ∧ ¬ HasNegativeSeed value) := by
  refine ⟨fun text read => ?_, fun config => ofValue_eq_ok_iff,
    fun fault failed => kind_of_ofValue_error failed, isSettled_ofValue_iff⟩
  unfold ofText
  rw [read]
  rfl

/-- A document with infinitely many samples. -/
def endlessDocument : String :=
  "samples_per_worker: .inf\nproblem: []\n"

/-- The kind of the fault that came of loading. -/
def faultKind? : Except Fault Configuration → Option FaultKind
  | .ok _ => none
  | .error fault => some fault.kind

theorem faultKind?_endlessDocument :
    (Yaml.read endlessDocument).toOption.isSome = true ∧
      faultKind? (ofText "config.yml" endlessDocument) = some .overflowError := by
  decide +kernel

theorem exists_eq_ok {α : Type} {given : Except Fault α}
    (succeeds : given.toOption.isSome = true) : ∃ result, given = .ok result := by
  cases given with
  | ok result => exact ⟨result, rfl⟩
  | error fault => cases succeeds

theorem eq_error_of_faultKind? {loaded : Except Fault Configuration} {kind : FaultKind}
    (same : faultKind? loaded = some kind) :
    ∃ fault, loaded = .error fault ∧ fault.kind = kind := by
  cases loaded with
  | ok config => cases same
  | error fault => exact ⟨fault, rfl, Option.some.inj same⟩

theorem loading_settles_endlessDocument :
    ∃ value fault, Yaml.read endlessDocument = .ok value ∧
      ofText "config.yml" endlessDocument = .error fault ∧ fault.kind = .overflowError ∧
      Overflows value := by
  obtain ⟨value, read⟩ := exists_eq_ok faultKind?_endlessDocument.1
  obtain ⟨fault, failed, kind⟩ := eq_error_of_faultKind? faultKind?_endlessDocument.2
  obtain ⟨sameAsValue, _, kinds, _⟩ := loading_settles "config.yml" value
  refine ⟨value, fault, read, failed, kind, ?_⟩
  rw [sameAsValue endlessDocument read] at failed
  rcases kinds fault failed with ⟨refused, _⟩ | ⟨_, overflows⟩
  · rw [kind] at refused
    cases refused
  · exact overflows

/-- A document with a negative seed. -/
def negativeDocument : String :=
  "samples_per_worker: 1\nseed: -1\nproblem: []\n"

/-- The seed of the configuration that came of loading, if it is an integer. -/
def loadedSeed? : Except Fault Configuration → Option Int
  | .ok ⟨_, _, .int seed, _, _⟩ => some seed
  | _ => none

theorem loadedSeed?_negativeDocument :
    (Yaml.read negativeDocument).toOption.isSome = true ∧
      loadedSeed? (ofText "config.yml" negativeDocument) = some (-1) := by
  decide +kernel

/-- Infinitely many samples are no reason to refuse a document, and neither is a negative seed. -/
theorem ofText_unsettled :
    ((∃ value, Yaml.read endlessDocument = .ok value) ∧
      ¬ IsSettled (ofText "config.yml" endlessDocument)) ∧
    (∃ value, Yaml.read negativeDocument = .ok value) ∧
      ¬ IsSettled (ofText "config.yml" negativeDocument) := by
  refine ⟨⟨exists_eq_ok faultKind?_endlessDocument.1, ?_⟩,
    exists_eq_ok loadedSeed?_negativeDocument.1, ?_⟩
  · obtain ⟨fault, failed, kind⟩ := eq_error_of_faultKind? faultKind?_endlessDocument.2
    rw [failed]
    intro refused
    cases kind.symm.trans refused
  · have negative := loadedSeed?_negativeDocument.2
    intro settled
    cases loaded : ofText "config.yml" negativeDocument with
    | error fault =>
        rw [loaded] at negative
        cases negative
    | ok config =>
        rw [loaded] at settled negative
        obtain ⟨samples, workers, seed, useProcesses, problem⟩ := config
        rcases settled.seed with absent | ⟨count, counts⟩
        · simp only at absent
          subst absent
          cases negative
        · simp only at counts
          subst counts
          have same : (count : Int) = -1 := Option.some.inj negative
          omega

end Configuration

end RandomSearch
