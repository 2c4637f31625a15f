import RandomSearch.Proofs.Display
import RandomSearch.Proofs.Numerals

/-!
# Descriptions taken apart

The description of a linear constraint consists of words with blanks between them: the terms of the
sum with a plus between any two, the sense, and the bound.  Where all coefficients are zero, an
empty word stands for the sum.  If the names of the variables are different, and neither empty nor
with blanks or stars in them, these words tell the coefficient of every variable, also of those that
are left out, whatever else the names look like.
-/

namespace RandomSearch

/-! ## What a constraint requires -/

/-- What a linear constraint in integers requires: how the sum of weights times values has to lie to
a bound. -/
structure Requirement where
  weights : List Int
  sense : Sense
  bound : Int
  deriving DecidableEq, Repr

/-- What a constraint with integers as its coefficients and its bound requires. -/
def LinearConstraint.requirement (constraint : LinearConstraint) : Requirement :=
  ⟨constraint.coefficients.map Value.integer, constraint.sense, constraint.bound.integer⟩

/-- The constraint without a name that requires this. -/
def Requirement.toConstraint (requirement : Requirement) : LinearConstraint :=
  ⟨.null, requirement.weights.map .int, .int requirement.bound, requirement.sense⟩

namespace Value

/-- Integers and truth values stand for integers, and nothing else does. -/
theorem IsInteger.eq_int_or_bool {value : Value} (whole : value.IsInteger) :
    (∃ n, value = .int n) ∨ ∃ b, value = .bool b := by
  cases value with
  | int n => exact Or.inl ⟨n, rfl⟩
  | bool b => exact Or.inr ⟨b, rfl⟩
  | null | float _ | str _ | list _ | tuple _ | map _ =>
      obtain ⟨_, number⟩ := whole
      cases number

/-- A truth value is multiplied like the integer that it stands for. -/
theorem times_eq_ok_iff {weight : Value} (whole : weight.IsInteger) {value : Value}
    {product : Product} :
    weight.times value = .ok product ↔ (Value.int weight.integer).times value = .ok product := by
  obtain ⟨n, rfl⟩ | ⟨b, rfl⟩ := whole.eq_int_or_bool
  · exact Iff.rfl
  · unfold times
    cases value.number? with
    | some factor => exact Iff.rfl
    | none =>
        cases value.repeatable? with
        | some length => exact Iff.rfl
        -- Only the messages differ, which name the type of the weight.
        | none =>
            constructor
            · intro failed
              cases failed
            · intro failed
              cases failed

theorem addProducts_eq_ok_iff {weights : List Value}
    (integers : ∀ weight ∈ weights, weight.IsInteger) {total sum : Number} {values : List Value} :
    addProducts total weights values = .ok sum ↔
      addProducts total ((weights.map integer).map .int) values = .ok sum := by
  induction weights generalizing total values with
  | nil => exact Iff.rfl
  | cons weight rest inductionHypothesis =>
      obtain ⟨first, others⟩ := List.forall_mem_cons.mp integers
      cases values with
      | nil => exact Iff.rfl
      | cons value values =>
          simp only [List.map_cons, addProducts, except_bind_eq_ok_iff, times_eq_ok_iff first,
            inductionHypothesis others]

theorem compare_of_isInteger (comparison : Comparison) (sum : Number) {bound : Value}
    (whole : bound.IsInteger) :
    (ofNumber sum).compare comparison bound =
      (ofNumber sum).compare comparison (.int bound.integer) := by
  have number := number?_ofNumber sum
  have same : (Value.int bound.integer).number? = some (.int bound.integer) := rfl
  unfold Value.compare compareBy
  rw [order_of_number number whole.number?_eq, order_of_number number same,
    equals_of_number number whole.number?_eq, equals_of_number number same]

end Value

namespace LinearConstraint

theorem holds_eq_ok_iff {constraint : LinearConstraint} {values : List Value} {verdict : Bool} :
    constraint.holds values = .ok verdict ↔
      ∃ sum, Value.dot constraint.coefficients values = .ok sum ∧
        (Value.ofNumber sum).compare constraint.sense.comparison constraint.bound =
          .ok verdict := by
  unfold holds weightedSum
  cases Value.dot constraint.coefficients values with
  | ok sum =>
      constructor
      · intro compared
        exact ⟨sum, rfl, compared⟩
      · rintro ⟨_, ⟨rfl⟩, compared⟩
        exact compared
  | error fault =>
      constructor
      · intro failed
        cases failed
      · rintro ⟨_, failed, _⟩
        cases failed

/-- Which values satisfy a constraint is a matter of what it requires. -/
theorem IsIntegral.holds_eq_ok_iff {constraint : LinearConstraint}
    (integral : constraint.IsIntegral) {values : List Value} {verdict : Bool} :
    constraint.holds values = .ok verdict ↔
      constraint.requirement.toConstraint.holds values = .ok verdict := by
  rw [LinearConstraint.holds_eq_ok_iff, LinearConstraint.holds_eq_ok_iff]
  refine exists_congr fun sum => and_congr (Value.addProducts_eq_ok_iff integral.coefficients) ?_
  rw [Value.compare_of_isInteger _ sum integral.bound]
  exact Iff.rfl

end LinearConstraint

/-! ## Words -/

namespace Value

/-- The integer that a word is the text of.  Truth values have words of their own. -/
def integerOf? (word : Text) : Option Int :=
  match Text.readInteger word.toChars with
  | .ok n => some n
  | .error _ => if word = "True" then some 1 else if word = "False" then some 0 else none

theorem integerOf?_integerText {n : Int} (writable : (Value.int n).isWritable = true) :
    integerOf? (integerText n) = some n := by
  rw [integerOf?, readInteger_integerText writable]

theorem integerOf?_text {value : Value} (whole : value.IsInteger)
    (writable : value.isWritable = true) : integerOf? value.text = some value.integer := by
  obtain ⟨n, rfl⟩ | ⟨b, rfl⟩ := whole.eq_int_or_bool
  · exact integerOf?_integerText writable
  · cases b with
    | true => decide
    | false => decide

/-- There is no blank in what is written of an integer. -/
theorem blank_notMem_text {value : Value} (whole : value.IsInteger) :
    CodePoint.scalar ' ' ∉ value.text := by
  obtain ⟨n, rfl⟩ | ⟨b, rfl⟩ := whole.eq_int_or_bool
  · exact notMem_integerText (by decide) n
  · cases b with
    | true => decide
    | false => decide

end Value

/-- The words of a description: those of its terms with a plus between any two, or an empty one if
there is no term, and those of the sense and the bound. -/
def descriptionWords (symbol bound : Text) : List Text → List Text
  | [] => [[], symbol, bound]
  | [term] => [term, symbol, bound]
  | term :: next :: rest => term :: "+" :: descriptionWords symbol bound (next :: rest)

theorem exists_descriptionWords_eq (symbol bound : Text) (terms : List Text) :
    ∃ first second rest, descriptionWords symbol bound terms = first :: second :: rest := by
  cases terms with
  | nil => exact ⟨_, _, _, rfl⟩
  | cons term later =>
      cases later with
      | nil => exact ⟨_, _, _, rfl⟩
      | cons next rest => exact ⟨_, _, _, rfl⟩

/-- With blanks between them the words make up the description. -/
theorem intercalate_descriptionWords (symbol bound : Text) (terms : List Text) :
    [CodePoint.scalar ' '].intercalate (descriptionWords symbol bound terms) =
      Text.joinWith " + " terms ++ " " ++ symbol ++ " " ++ bound := by
  induction terms with
  | nil =>
      simp [descriptionWords, Text.joinWith, List.intercalate_cons_cons, Text.ofString,
        Text.ofChars]
  | cons term later inductionHypothesis =>
      cases later with
      | nil =>
          simp [descriptionWords, Text.joinWith, List.intercalate_cons_cons, Text.ofString,
            Text.ofChars]
      | cons next rest =>
          obtain ⟨first, second, others, words⟩ :=
            exists_descriptionWords_eq symbol bound (next :: rest)
          rw [descriptionWords, words, List.intercalate_cons_cons, List.intercalate_cons_cons,
            ← words, inductionHypothesis, Text.joinWith]
          simp [Text.ofString, Text.ofChars]

namespace Requirement

/-- How a term is written: its weight and its variable with a star between them, or only the
variable if the weight is one. -/
def termText (term : Text × Int) : Text :=
  if term.2 = 1 then term.1 else Value.integerText term.2 ++ "*" ++ term.1

/-- The terms of a sum: the variables that have weights, with these. -/
def termsOf (names : List Text) (weights : List Int) : List (Text × Int) :=
  (names.zip weights).filter fun term => term.2 != 0

/-! ## Reading words -/

/-- The term that a word writes. -/
def readTerm? (word : Text) : Option (Text × Int) :=
  match word.splitOn (.scalar '*') with
  | [name] => some (name, 1)
  | [weight, name] => (Value.integerOf? weight).map fun weight => (name, weight)
  | _ => none

/-- The terms, the sense and the bound that words write. -/
def readWords? : List Text → Option (List (Text × Int) × Sense × Int)
  | [word, symbol, bound] => do
      return ([← readTerm? word], ← Sense.ofSymbol? symbol, ← Value.integerOf? bound)
  | word :: _ :: rest => do
      let term ← readTerm? word
      let (terms, sense, bound) ← readWords? rest
      return (term :: terms, sense, bound)
  | _ => none

/-- The weight that a variable has in some terms. -/
def weightIn (terms : List (Text × Int)) (name : Text) : Int :=
  (Entries.get? terms name).getD 0

/-- What a constraint on variables with the given names requires, read off its description. -/
def read? (names : List Text) (description : Text) : Option Requirement := do
  let (terms, sense, bound) ← readWords? (description.splitOn (.scalar ' '))
  return ⟨names.map (weightIn terms), sense, bound⟩

theorem splitOn_of_notMem {point : CodePoint} {word : Text} (none : point ∉ word) :
    word.splitOn point = [word] := by
  have split : ([point].intercalate [word]).splitOn point = [word] := by
    refine List.splitOn_intercalate point ?_ (List.cons_ne_nil _ _)
    intro part member
    rw [List.mem_singleton.mp member]
    exact none
  rwa [List.intercalate_singleton] at split

theorem readTerm?_termText {term : Text × Int} (noStar : CodePoint.scalar '*' ∉ term.1)
    (writable : (Value.int term.2).isWritable = true) : readTerm? (termText term) = some term := by
  obtain ⟨name, weight⟩ := term
  unfold readTerm? termText
  by_cases one : weight = 1
  · rw [if_pos one, splitOn_of_notMem noStar, one]
  · have parts : Value.integerText weight ++ "*" ++ name =
        [CodePoint.scalar '*'].intercalate [Value.integerText weight, name] := by
      rw [List.intercalate_cons_cons, List.intercalate_singleton]
      rfl
    have split : (Value.integerText weight ++ "*" ++ name).splitOn (.scalar '*') =
        [Value.integerText weight, name] := by
      rw [parts]
      refine List.splitOn_intercalate _ ?_ (List.cons_ne_nil _ _)
      refine List.forall_mem_cons.mpr ⟨Value.notMem_integerText (by decide) weight, ?_⟩
      exact List.forall_mem_cons.mpr ⟨noStar, List.forall_mem_nil _⟩
    rw [if_neg one, split]
    dsimp only
    rw [Value.integerOf?_integerText writable]
    rfl

/-- The terms that are read where these have been written.  The empty word that stands for no term
at all is read as one. -/
def readAs : List (Text × Int) → List (Text × Int)
  | [] => [([], 1)]
  | terms => terms

theorem readWords?_descriptionWords {terms : List (Text × Int)} (sense : Sense) {bound : Text}
    {n : Int} (noStars : ∀ term ∈ terms, CodePoint.scalar '*' ∉ term.1)
    (writable : ∀ term ∈ terms, (Value.int term.2).isWritable = true)
    (read : Value.integerOf? bound = some n) :
    readWords? (descriptionWords sense.symbol bound (terms.map termText)) =
      some (readAs terms, sense, n) := by
  induction terms with
  | nil =>
      rw [List.map_nil, descriptionWords, readWords?, Sense.ofSymbol?_symbol, read]
      rfl
  | cons term later inductionHypothesis =>
      obtain ⟨noStar, noStars⟩ := List.forall_mem_cons.mp noStars
      obtain ⟨first, writable⟩ := List.forall_mem_cons.mp writable
      have others := inductionHypothesis noStars writable
      cases later with
      | nil =>
          rw [List.map_cons, List.map_nil, descriptionWords, readWords?,
            readTerm?_termText noStar first, Sense.ofSymbol?_symbol, read]
          rfl
      | cons next rest =>
          rw [List.map_cons] at others
          obtain ⟨second, third, more, words⟩ := exists_descriptionWords_eq sense.symbol bound
            (termText next :: rest.map termText)
          have longer : ∀ word, second :: third :: more = [word] → False := by
            intro _ same
            cases same
          rw [List.map_cons, List.map_cons, descriptionWords]
          rw [words] at others ⊢
          rw [readWords?, readTerm?_termText noStar first, others]
          · rfl
          · exact longer

/-! ## Weights of all variables -/

/-- Names of variables that can be told apart in a description. -/
structure ArePlain (names : List Text) : Prop where
  nodup : names.Nodup
  filled : ∀ name ∈ names, name ≠ []
  noBlanks : ∀ name ∈ names, CodePoint.scalar ' ' ∉ name
  noStars : ∀ name ∈ names, CodePoint.scalar '*' ∉ name

variable {names : List Text} {weights : List Int}

theorem termsOf_cons (name : Text) (names : List Text) (weight : Int) (weights : List Int) :
    termsOf (name :: names) (weight :: weights) =
      if weight = 0 then termsOf names weights else (name, weight) :: termsOf names weights := by
  unfold termsOf
  rw [List.zip_cons_cons, List.filter_cons]
  by_cases zero : weight = 0
  · simp [zero]
  · simp [zero]

theorem mem_termsOf_iff {term : Text × Int} :
    term ∈ termsOf names weights ↔ term ∈ names.zip weights ∧ term.2 ≠ 0 := by
  rw [termsOf, List.mem_filter, bne_iff_ne]

theorem nodup_zip (nodup : names.Nodup) (count : weights.length = names.length) :
    ((names.zip weights).map Prod.fst).Nodup := by
  rw [List.map_fst_zip (Nat.le_of_eq count.symm)]
  exact nodup

theorem nodup_termsOf (nodup : names.Nodup) (count : weights.length = names.length) :
    ((termsOf names weights).map Prod.fst).Nodup :=
  (nodup_zip nodup count).sublist (List.filter_sublist.map Prod.fst)

/-- A variable has its weight in the terms, also if it is none of them. -/
theorem weightIn_termsOf (nodup : names.Nodup) (count : weights.length = names.length)
    {term : Text × Int} (member : term ∈ names.zip weights) :
    weightIn (termsOf names weights) term.1 = term.2 := by
  obtain ⟨name, weight⟩ := term
  have keys := nodup_zip nodup count
  unfold weightIn
  cases found : Entries.get? (termsOf names weights) name with
  | some other =>
      have among := (mem_termsOf_iff.mp (Entries.mem_of_get? found)).1
      exact Option.some.inj ((Entries.get?_of_mem keys among).symm.trans
        (Entries.get?_of_mem keys member))
  | none =>
      by_contra other
      have present : (name, weight) ∈ termsOf names weights :=
        mem_termsOf_iff.mpr ⟨member, fun zero => other zero.symm⟩
      rw [Entries.get?_of_mem (nodup_termsOf nodup count) present] at found
      cases found

theorem weightIn_readAs (terms : List (Text × Int)) {name : Text} (filled : name ≠ []) :
    weightIn (readAs terms) name = weightIn terms name := by
  cases terms with
  | nil => exact congrArg (Option.getD · 0) (Entries.get?_put_of_ne 1 [] filled)
  | cons _ _ => rfl

/-- The terms tell the weights of all variables. -/
theorem map_weightIn_readAs (plain : ArePlain names) (count : weights.length = names.length) :
    names.map (weightIn (readAs (termsOf names weights))) = weights := by
  have called : (names.zip weights).map Prod.fst = names :=
    List.map_fst_zip (Nat.le_of_eq count.symm)
  have each : ∀ term ∈ names.zip weights,
      weightIn (readAs (termsOf names weights)) term.1 = term.2 := by
    intro term member
    rw [weightIn_readAs _ (plain.filled _ (List.of_mem_zip member).1)]
    exact weightIn_termsOf plain.nodup count member
  calc names.map (weightIn (readAs (termsOf names weights)))
      _ = ((names.zip weights).map Prod.fst).map (weightIn (readAs (termsOf names weights))) := by
        rw [called]
      _ = (names.zip weights).map Prod.snd := by
        rw [List.map_map]
        exact List.map_congr_left each
      _ = weights := List.map_snd_zip (Nat.le_of_eq count)

end Requirement

/-! ## Descriptions -/

namespace Value

theorem equals_int_iff {value : Value} (whole : value.IsInteger) (n : Int) :
    value.equals (.int n) = true ↔ value.integer = n := by
  rw [equals_of_number whole.number?_eq (show (Value.int n).number? = some (.int n) from rfl),
    Number.equals, Number.compare?_int]
  rcases lt_trichotomy value.integer n with less | same | more
  · simp [less, ne_of_lt less]
  · simp [same]
  · simp [not_lt_of_gt more, ne_of_gt more]

theorem isWritable_of_integer {value : Value} (whole : value.IsInteger)
    (fits : LinearProblem.fitsWord value.integer = true) : value.isWritable = true := by
  obtain ⟨n, rfl⟩ | ⟨b, rfl⟩ := whole.eq_int_or_bool
  · exact LinearProblem.isWritable_of_fitsWord fits
  · rfl

theorem isWritable_int_integer {value : Value} (whole : value.IsInteger)
    (writable : value.isWritable = true) : (Value.int value.integer).isWritable = true := by
  obtain ⟨n, rfl⟩ | ⟨b, rfl⟩ := whole.eq_int_or_bool
  · exact writable
  · cases b with
    | true => exact LinearProblem.isWritable_of_fitsWord (by decide)
    | false => exact LinearProblem.isWritable_of_fitsWord (by decide)

/-- Only zero and one are also truth values. -/
theorem eq_int_of_isInteger {value : Value} (whole : value.IsInteger) (notZero : value.integer ≠ 0)
    (notOne : value.integer ≠ 1) : value = .int value.integer := by
  obtain ⟨n, rfl⟩ | ⟨b, rfl⟩ := whole.eq_int_or_bool
  · rfl
  · cases b with
    | true => exact absurd rfl notOne
    | false => exact absurd rfl notZero

end Value

namespace LinearConstraint

open Requirement

theorem term_eq_ok_iff {coefficient : Value} (whole : coefficient.IsInteger)
    (notZero : coefficient.integer ≠ 0) {name : Text} {part : Value} :
    term coefficient (.str name) = .ok part ↔
      coefficient.isWritable = true ∧ part = .str (termText (name, coefficient.integer)) := by
  have one := Value.equals_int_iff whole 1
  unfold term termText
  by_cases unit : coefficient.integer = 1
  · have writable : coefficient.isWritable = true :=
      Value.isWritable_of_integer whole (by rw [unit]; decide)
    rw [if_pos (one.mpr unit), if_pos unit]
    constructor
    · intro same
      cases same
      exact ⟨writable, rfl⟩
    · rintro ⟨_, rfl⟩
      rfl
  · rw [if_neg fun equal => unit (one.mp equal), if_neg unit]
    have text : coefficient.text = Value.integerText coefficient.integer := by
      conv_lhs => rw [Value.eq_int_of_isInteger whole notZero unit]
      rfl
    simp only [except_bind_eq_ok_iff, Value.written_eq_ok_iff]
    constructor
    · rintro ⟨_, ⟨writable, rfl⟩, _, ⟨_, rfl⟩, same⟩
      cases same
      exact ⟨writable, by rw [text]⟩
    · rintro ⟨writable, rfl⟩
      exact ⟨_, ⟨writable, text.symm⟩, name, ⟨rfl, rfl⟩, rfl⟩

theorem terms_eq_ok_iff {coefficients : List Value}
    (integers : ∀ coefficient ∈ coefficients, coefficient.IsInteger) {names : List Text}
    (count : coefficients.length = names.length) {parts : List Value} :
    terms coefficients (names.map .str) = .ok parts ↔
      (∀ coefficient ∈ coefficients, coefficient.isWritable = true) ∧
        parts = ((termsOf names (coefficients.map Value.integer)).map termText).map .str := by
  induction coefficients generalizing names parts with
  | nil =>
      cases List.length_eq_zero_iff.mp count.symm
      constructor
      · intro same
        cases same
        exact ⟨List.forall_mem_nil _, rfl⟩
      · rintro ⟨_, rfl⟩
        rfl
  | cons coefficient rest inductionHypothesis =>
      obtain ⟨name, names, rfl⟩ := List.exists_cons_of_length_eq_add_one count.symm
      obtain ⟨whole, others⟩ := List.forall_mem_cons.mp integers
      have later := fun parts => @inductionHypothesis others names (Nat.succ.inj count) parts
      have zero := Value.equals_int_iff whole 0
      rw [List.map_cons, List.map_cons, termsOf_cons, terms, List.forall_mem_cons]
      by_cases none : coefficient.integer = 0
      · have writable : coefficient.isWritable = true :=
          Value.isWritable_of_integer whole (by rw [none]; decide)
        rw [if_pos (zero.mpr none), if_pos none, later, and_iff_right writable]
      · rw [if_neg fun equal => none (zero.mp equal), if_neg none]
        simp only [except_bind_eq_ok_iff, term_eq_ok_iff whole none, later]
        constructor
        · rintro ⟨_, ⟨writable, rfl⟩, _, ⟨restWritable, rfl⟩, same⟩
          cases same
          exact ⟨⟨writable, restWritable⟩, rfl⟩
        · rintro ⟨⟨writable, restWritable⟩, rfl⟩
          exact ⟨_, ⟨writable, rfl⟩, _, ⟨restWritable, rfl⟩, rfl⟩

theorem partsFrom_map_str (position : Nat) (texts : List Text) :
    partsFrom position (texts.map .str) = .ok texts := by
  induction texts generalizing position with
  | nil => rfl
  | cons text rest inductionHypothesis =>
      rw [List.map_cons, partsFrom, inductionHypothesis]
      rfl

/-- The words that describe a constraint in integers on variables with the given names. -/
def words (constraint : LinearConstraint) (names : List Text) : List Text :=
  descriptionWords constraint.sense.symbol constraint.bound.text
    ((termsOf names constraint.requirement.weights).map termText)

/-- A constraint whose coefficients and bound can be written. -/
structure IsWritable (constraint : LinearConstraint) : Prop where
  coefficients : ∀ coefficient ∈ constraint.coefficients, coefficient.isWritable = true
  bound : constraint.bound.isWritable = true

theorem IsIntegral.isWritable {constraint : LinearConstraint} (integral : constraint.IsIntegral)
    (coefficients : ∀ coefficient ∈ constraint.coefficients,
      LinearProblem.fitsWord coefficient.integer = true)
    (bound : LinearProblem.fitsWord constraint.bound.integer = true) : constraint.IsWritable where
  coefficients coefficient member :=
    Value.isWritable_of_integer (integral.coefficients coefficient member)
      (coefficients coefficient member)
  bound := Value.isWritable_of_integer integral.bound bound

/-- A constraint in integers is described by its words, if these can be written. -/
theorem description_eq_ok_iff {constraint : LinearConstraint} (integral : constraint.IsIntegral)
    {names : List Text} (count : constraint.coefficients.length = names.length)
    {variableNames : Value} (listed : variableNames.iterate = .ok (names.map .str)) {text : Text} :
    constraint.description variableNames = .ok text ↔ constraint.IsWritable ∧
      text = [CodePoint.scalar ' '].intercalate (constraint.words names) := by
  have written := fun parts => @terms_eq_ok_iff _ integral.coefficients names count parts
  rw [words, intercalate_descriptionWords]
  unfold description
  rw [listed]
  simp only [except_bind_eq_ok_iff, Value.written_eq_ok_iff]
  constructor
  · rintro ⟨_, ⟨rfl⟩, parts, termed, _, joined, _, ⟨bound, rfl⟩, same⟩
    obtain ⟨coefficients, rfl⟩ := (written parts).mp termed
    rw [partsFrom_map_str] at joined
    cases joined
    cases same
    exact ⟨⟨coefficients, bound⟩, rfl⟩
  · rintro ⟨⟨coefficients, bound⟩, rfl⟩
    have termed := (written _).mpr ⟨coefficients, rfl⟩
    exact ⟨_, rfl, _, termed, _, partsFrom_map_str 0 _, _, ⟨bound, rfl⟩, rfl⟩

end LinearConstraint

namespace Requirement

/-! ## Reading descriptions -/

theorem blank_notMem_termText {term : Text × Int} (noBlank : CodePoint.scalar ' ' ∉ term.1) :
    CodePoint.scalar ' ' ∉ termText term := by
  unfold termText
  split
  · exact noBlank
  · have parts := Value.notMem_integerText (c := ' ') (by decide) term.2
    have star : CodePoint.scalar ' ' ∉ Text.ofString "*" := by decide
    simp only [List.mem_append, not_or]
    exact ⟨⟨parts, star⟩, noBlank⟩

theorem blank_notMem_descriptionWords (sense : Sense) {bound : Text} {terms : List Text}
    (noBlank : CodePoint.scalar ' ' ∉ bound)
    (noBlanks : ∀ term ∈ terms, CodePoint.scalar ' ' ∉ term) :
    ∀ word ∈ descriptionWords sense.symbol bound terms, CodePoint.scalar ' ' ∉ word := by
  have symbol : CodePoint.scalar ' ' ∉ sense.symbol := by
    cases sense with
    | atMost => decide
    | atLeast => decide
    | exactly => decide
  have ending : ∀ word ∈ [sense.symbol, bound], CodePoint.scalar ' ' ∉ word :=
    List.forall_mem_cons.mpr
      ⟨symbol, List.forall_mem_cons.mpr ⟨noBlank, List.forall_mem_nil _⟩⟩
  induction terms with
  | nil => exact List.forall_mem_cons.mpr ⟨List.not_mem_nil, ending⟩
  | cons term later inductionHypothesis =>
      obtain ⟨first, others⟩ := List.forall_mem_cons.mp noBlanks
      cases later with
      | nil => exact List.forall_mem_cons.mpr ⟨first, ending⟩
      | cons next rest =>
          have plus : CodePoint.scalar ' ' ∉ Text.ofString "+" := by decide
          exact List.forall_mem_cons.mpr
            ⟨first, List.forall_mem_cons.mpr ⟨plus, inductionHypothesis others⟩⟩

variable {names : List Text} {variableNames : Value} {constraint : LinearConstraint} {text : Text}

theorem mem_names_of_mem_termsOf {weights : List Int} {term : Text × Int}
    (member : term ∈ termsOf names weights) : term.1 ∈ names :=
  (List.of_mem_zip (mem_termsOf_iff.mp member).1).1

/-- The words of a description are the parts of it between blanks. -/
theorem splitOn_words (plain : ArePlain names) (integral : constraint.IsIntegral) :
    ([CodePoint.scalar ' '].intercalate (constraint.words names)).splitOn (.scalar ' ') =
      constraint.words names := by
  have noBlanks : ∀ term ∈ (termsOf names constraint.requirement.weights).map termText,
      CodePoint.scalar ' ' ∉ term :=
    List.forall_mem_map.mpr fun term member =>
      blank_notMem_termText (plain.noBlanks _ (mem_names_of_mem_termsOf member))
  refine List.splitOn_intercalate _ ?_ ?_
  · exact blank_notMem_descriptionWords _ (Value.blank_notMem_text integral.bound) noBlanks
  · obtain ⟨_, _, _, words⟩ := exists_descriptionWords_eq constraint.sense.symbol
      constraint.bound.text ((termsOf names constraint.requirement.weights).map termText)
    rw [LinearConstraint.words, words]
    exact List.cons_ne_nil _ _

theorem isWritable_of_mem_termsOf (integral : constraint.IsIntegral)
    (writable : constraint.IsWritable) {term : Text × Int}
    (member : term ∈ termsOf names constraint.requirement.weights) :
    (Value.int term.2).isWritable = true := by
  have among : term.2 ∈ constraint.coefficients.map Value.integer :=
    (List.of_mem_zip (mem_termsOf_iff.mp member).1).2
  obtain ⟨coefficient, present, same⟩ := List.mem_map.mp among
  rw [← same]
  exact Value.isWritable_int_integer (integral.coefficients _ present)
    (writable.coefficients _ present)

/-- What a constraint requires can be read off its description. -/
theorem read?_of_description (plain : ArePlain names)
    (listed : variableNames.iterate = .ok (names.map .str)) (integral : constraint.IsIntegral)
    (count : constraint.coefficients.length = names.length)
    (described : constraint.description variableNames = .ok text) :
    read? names text = some constraint.requirement := by
  obtain ⟨writable, rfl⟩ :=
    (LinearConstraint.description_eq_ok_iff integral count listed).mp described
  have weights := map_weightIn_readAs plain ((List.length_map _).trans count :
    constraint.requirement.weights.length = names.length)
  rw [read?, splitOn_words plain integral, LinearConstraint.words,
    readWords?_descriptionWords constraint.sense
      (fun term member => plain.noStars _ (mem_names_of_mem_termsOf member))
      (fun term member => isWritable_of_mem_termsOf integral writable member)
      (Value.integerOf?_text integral.bound writable.bound)]
  exact congrArg (fun weights => some (Requirement.mk weights _ _)) weights

/-- Nothing is left of the sum where all coefficients are zero. -/
example : read? ["x", "y"] " >= -7" = some ⟨[0, 0], .atLeast, -7⟩ := by decide

end Requirement

namespace LinearConstraint

/-- A constraint in integers has a description unless an integer in it is too long to be written.
The description tells what the constraint requires, so that all constraints with this description
require the same, and the same values satisfy them. -/
theorem description_tells {names : List Text} (plain : Requirement.ArePlain names)
    {variableNames : Value} (listed : variableNames.iterate = .ok (names.map .str))
    {constraint : LinearConstraint} (integral : constraint.IsIntegral)
    (count : constraint.coefficients.length = names.length) :
    ((∃ text, constraint.description variableNames = .ok text) ↔ constraint.IsWritable) ∧
    ∀ text, constraint.description variableNames = .ok text →
      Requirement.read? names text = some constraint.requirement ∧
      ∀ other : LinearConstraint, other.IsIntegral → other.coefficients.length = names.length →
        other.description variableNames = .ok text →
          other.requirement = constraint.requirement ∧
          ∀ values verdict,
            other.holds values = .ok verdict ↔ constraint.holds values = .ok verdict := by
  constructor
  · constructor
    · rintro ⟨text, described⟩
      exact ((description_eq_ok_iff integral count listed).mp described).1
    · intro writable
      exact ⟨_, (description_eq_ok_iff integral count listed).mpr ⟨writable, rfl⟩⟩
  · intro text described
    have read := Requirement.read?_of_description plain listed integral count described
    refine ⟨read, fun other otherIntegral otherCount otherDescribed => ?_⟩
    have again := Requirement.read?_of_description plain listed otherIntegral otherCount
      otherDescribed
    have same : other.requirement = constraint.requirement :=
      Option.some.inj (again.symm.trans read)
    refine ⟨same, fun values verdict => ?_⟩
    rw [otherIntegral.holds_eq_ok_iff, integral.holds_eq_ok_iff, same]

/-- The variables are named like a number and like the sign between terms, and the last has no part
in the sum. -/
theorem description_tells_misleading :
    let names : List Text := ["-3", "+", "x"]
    let constraint : LinearConstraint :=
      ⟨.str "balance", [.int 1, .int (-2), .int 0], .int (-5), .exactly⟩
    let other : LinearConstraint :=
      ⟨.str "again", [.bool true, .int (-2), .bool false], .int (-5), .exactly⟩
    constraint.description (.list (names.map .str)) = .ok "-3 + -2*+ == -5" ∧
      Requirement.read? names "-3 + -2*+ == -5" = some ⟨[1, -2, 0], .exactly, -5⟩ ∧
      other.requirement = constraint.requirement ∧
      ∀ values verdict,
        other.holds values = .ok verdict ↔ constraint.holds values = .ok verdict := by
  intro names constraint other
  have plain : Requirement.ArePlain names := ⟨by decide, by decide, by decide, by decide⟩
  have integral : constraint.IsIntegral := ⟨by decide, by decide⟩
  have otherIntegral : other.IsIntegral := ⟨by decide, by decide⟩
  have listed : (Value.list (names.map .str)).iterate = .ok (names.map .str) := rfl
  have described : constraint.description (.list (names.map .str)) = .ok "-3 + -2*+ == -5" :=
    (description_eq_ok_iff integral rfl listed).mpr
      ⟨integral.isWritable (by decide) (by decide), by decide⟩
  have otherDescribed : other.description (.list (names.map .str)) = .ok "-3 + -2*+ == -5" :=
    (description_eq_ok_iff otherIntegral rfl listed).mpr
      ⟨otherIntegral.isWritable (by decide) (by decide), by decide⟩
  obtain ⟨_, tells⟩ := description_tells plain listed integral rfl
  obtain ⟨read, others⟩ := tells _ described
  obtain ⟨same, alike⟩ := others other otherIntegral rfl otherDescribed
  exact ⟨described, read, same, alike⟩

end LinearConstraint

end RandomSearch
