import RandomSearch.Proofs.Keys
import RandomSearch.Proofs.Normalisation
import RandomSearch.Proofs.Winner

/-!
# What is shown of a search

A search sums up its verdicts under the names that its constraints go by, and the descriptions of
the constraints under the names that the problem gives them.  These are the same names, unless a
constraint is named like a definition without a name: then it goes by its position, under which
nothing is described.
-/

namespace RandomSearch

/-! ## Names that constraints go by -/

namespace ConstraintItem

/-- A name that a constraint keeps. -/
def IsOwnName (name : Text) : Prop :=
  name ≠ "" ∧ name ≠ anonymous

instance (name : Text) : Decidable (IsOwnName name) :=
  inferInstanceAs (Decidable (_ ∧ _))

theorem eq_of_not_isOwnName {name : Text} (other : ¬ IsOwnName name) :
    name = "" ∨ name = anonymous := by
  rw [IsOwnName, not_and_or, not_not, not_not] at other
  exact other

/-- The name that a constraint at some position goes by. -/
def shownName (name : Text) (position : Nat) : Text :=
  if IsOwnName name then name else s!"c{position}"

/-- The names that constraints from some position on go by. -/
def shownNamesFrom (position : Nat) (names : List Text) : List Text :=
  (names.zipIdx position).map fun (name, place) => shownName name place

theorem length_shownNamesFrom (position : Nat) (names : List Text) :
    (shownNamesFrom position names).length = names.length := by
  rw [shownNamesFrom, List.length_map, List.length_zipIdx]

theorem getElem?_shownNamesFrom {names : List Text} {place : Nat} {name : Text}
    (here : names[place]? = some name) :
    (shownNamesFrom 0 names)[place]? = some (shownName name place) := by
  rw [shownNamesFrom, List.getElem?_map, List.getElem?_zipIdx, here, Nat.zero_add]
  rfl

theorem shownNamesFrom_of_own {names : List Text} (own : ∀ name ∈ names, IsOwnName name) :
    shownNamesFrom 0 names = names := by
  refine Eq.trans (List.map_congr_left fun place member => ?_) (List.zipIdx_map_fst 0 names)
  exact if_pos (own place.1 (List.fst_mem_of_mem_zipIdx member))

theorem bareName_str (position : Nat) (name : Text) :
    bareName position (some (.str name)) none = .ok (shownName name position) := by
  unfold bareName shownName
  by_cases own : IsOwnName name
  · have truthy : (Value.str name).truthy = true := by
      rw [Value.truthy, Bool.not_eq_true', List.isEmpty_eq_false_iff]
      exact own.1
    have compared : (Value.str name != .str anonymous) = (name != anonymous) := rfl
    have other : (name != anonymous) = true := bne_iff_ne.mpr own.2
    simp only [Option.getD_some, truthy, if_true, compared, other, Bool.and_self, if_pos own]
    rfl
  · rw [if_neg own]
    rcases eq_of_not_isOwnName own with rfl | rfl
    · rfl
    · rfl

theorem head?_position (position : Nat) :
    (Text.ofString s!"c{position}").head? = some (.scalar 'c') := by
  rw [Text.ofString, String.toList_append]
  rfl

/-- The name of a position is one that a constraint would keep. -/
theorem isOwnName_position (position : Nat) : IsOwnName s!"c{position}" := by
  have first := head?_position position
  constructor
  · intro same
    rw [same] at first
    cases first
  · intro same
    rw [same] at first
    cases first

/-- A name that a constraint does not keep is shown by another character than that of the position
which it goes by. -/
theorem head?_padText_ne {name : Text} (other : ¬ IsOwnName name) (position : Nat) :
    (padText 16 name).head? ≠ (padText 16 s!"c{position}").head? := by
  have first : (padText 16 (Text.ofString s!"c{position}")).head? = some (.scalar 'c') := by
    rw [padText, List.head?_append, head?_position]
    rfl
  intro same
  rw [first] at same
  rcases eq_of_not_isOwnName other with rfl | rfl
  · cases same
  · cases same

end ConstraintItem

theorem LinearConstraint.exists_names {linear : List LinearConstraint}
    (texts : ∀ constraint ∈ linear, ∃ name, constraint.name = .str name) :
    ∃ names : List Text, linear.map LinearConstraint.name = names.map .str := by
  induction linear with
  | nil => exact ⟨[], rfl⟩
  | cons constraint rest inductionHypothesis =>
      obtain ⟨⟨name, called⟩, later⟩ := List.forall_mem_cons.mp texts
      obtain ⟨names, named⟩ := inductionHypothesis later
      exact ⟨name :: names, by rw [List.map_cons, List.map_cons, called, named]⟩

theorem LinearConstraint.length_of_named {linear : List LinearConstraint} {names : List Text}
    (named : linear.map LinearConstraint.name = names.map .str) :
    linear.length = names.length := by
  rw [← List.length_map LinearConstraint.name, named, List.length_map]

namespace LinearProblem

theorem names_of_toConstraintsFrom {σ : Type} {linear : List LinearConstraint} {names : List Text}
    (named : linear.map LinearConstraint.name = names.map .str) {position : Nat}
    {constraints : List (Constraint σ Mix)}
    (made : ConstraintItem.toConstraintsFrom position (linear.map constraintItem) =
      .ok constraints) :
    constraints.map Constraint.name = ConstraintItem.shownNamesFrom position names := by
  induction linear generalizing names position constraints with
  | nil =>
      cases List.map_eq_nil_iff.mp named.symm
      cases made
      rfl
  | cons given rest inductionHypothesis =>
      obtain ⟨name, others, rfl, first, later⟩ := List.map_eq_cons_iff.mp named.symm
      obtain ⟨constraint, bare, made⟩ := except_bind_eq_ok_iff.mp made
      obtain ⟨constraints, restMade, same⟩ := except_bind_eq_ok_iff.mp made
      cases same
      obtain ⟨shown, isShown, same⟩ := except_bind_eq_ok_iff.mp bare
      cases same
      rw [← first, ConstraintItem.bareName_str] at isShown
      cases isShown
      rw [ConstraintItem.shownNamesFrom, List.map_cons, List.zipIdx_cons, List.map_cons,
        inductionHypothesis later.symm restMade]
      rfl

/-! ## Descriptions -/

theorem exists_of_descriptionsFrom {variableNames : Value} {linear : List LinearConstraint}
    {names : List Text} (named : linear.map LinearConstraint.name = names.map .str)
    {earlier : List (Text × Value)} {described : List (Value × Value)}
    (made : descriptionsFrom variableNames (Entries.underTexts earlier) linear = .ok described) :
    ∃ texts : List Text,
      List.Forall₂ (fun given text => given.description variableNames = .ok text) linear texts ∧
        described = Entries.underTexts ((names.zip (texts.map .str)).foldl
          (fun map entry => Entries.put entry.1 entry.2 map) earlier) := by
  induction linear generalizing names earlier with
  | nil =>
      cases List.map_eq_nil_iff.mp named.symm
      cases made
      exact ⟨[], .nil, rfl⟩
  | cons given rest inductionHypothesis =>
      obtain ⟨name, others, rfl, first, later⟩ := List.map_eq_cons_iff.mp named.symm
      obtain ⟨text, described, made⟩ := except_bind_eq_ok_iff.mp made
      obtain ⟨_, _, made⟩ := except_bind_eq_ok_iff.mp made
      rw [← first, Entries.put_underTexts] at made
      obtain ⟨texts, descriptions, same⟩ := inductionHypothesis later.symm made
      exact ⟨text :: texts, .cons described descriptions, same⟩

/-- Under different names every constraint has its own description. -/
theorem exists_of_descriptions {problem : LinearProblem} {names : List Text}
    (named : problem.constraints.map LinearConstraint.name = names.map .str) (nodup : names.Nodup)
    {described : List (Value × Value)} (made : problem.descriptions = .ok described) :
    ∃ texts : List Text,
      List.Forall₂ (fun given text => given.description (.list problem.names) = .ok text)
        problem.constraints texts ∧
      described = Entries.underTexts (names.zip (texts.map .str)) := by
  have started : descriptionsFrom (.list problem.names) (Entries.underTexts [])
      problem.constraints = .ok described := made
  obtain ⟨texts, descriptions, same⟩ := exists_of_descriptionsFrom named started
  refine ⟨texts, descriptions, same.trans (congrArg Entries.underTexts ?_)⟩
  have count : names.length = (texts.map Value.str).length := by
    rw [List.length_map, ← descriptions.length_eq, LinearConstraint.length_of_named named]
  refine Entries.ofList_of_nodup ?_
  rw [List.map_fst_zip (Nat.le_of_eq count)]
  exact nodup

/-! ## Points -/

theorem fitsWord_of_between {lowers uppers point : List Int}
    (above : List.Forall₂ (· ≤ ·) lowers point) (below : List.Forall₂ (· ≤ ·) point uppers)
    (lowest : ∀ limit ∈ lowers, fitsWord limit = true)
    (highest : ∀ limit ∈ uppers, fitsWord limit = true) : ∀ n ∈ point, fitsWord n = true := by
  induction above generalizing uppers with
  | nil =>
      intro n member
      cases member
  | @cons low n _ _ least _ inductionHypothesis =>
      cases below with
      | @cons _ high _ _ most others =>
          obtain ⟨lowFits, lowest⟩ := List.forall_mem_cons.mp lowest
          obtain ⟨highFits, highest⟩ := List.forall_mem_cons.mp highest
          refine List.forall_mem_cons.mpr ⟨?_, inductionHypothesis others lowest highest⟩
          simp only [fitsWord, Bool.and_eq_true, decide_eq_true_eq] at lowFits highFits ⊢
          omega

/-- A candidate that is drawn has the coordinates of a point of the box for values, and the names of
the variables. -/
theorem exists_point_of_draw {σ : Type} {problem : LinearProblem} (formed : problem.IsWellFormed)
    {start last : Generator × σ} {mix : Mix} (drawn : problem.draw start = .ok mix last) :
    ∃ point : List Int, mix.values = point.map .int ∧ mix.names = problem.names ∧
      List.Forall₂ (· ≤ ·) problem.lower point ∧ List.Forall₂ (· ≤ ·) point problem.upper ∧
      ∀ n ∈ point, fitsWord n = true := by
  obtain ⟨generator, surroundings⟩ := start
  have checked := drawn
  obtain ⟨_, _, checks, _⟩ := Action.bind_eq_ok_iff.mp checked
  have fits := checkBox_eq_ok_iff.mp (Action.ofExcept_eq_ok_iff.mp checks).1
  obtain ⟨made, _⟩ := (draw_eq_ok_iff fits).mp drawn
  obtain ⟨goal, _, same⟩ := except_bind_eq_ok_iff.mp made
  cases same
  obtain ⟨above, below⟩ := generator.forall₂_drawBox formed.ranges
  exact ⟨_, rfl, rfl, above, below, fitsWord_of_between above below fits.lower fits.upper⟩

theorem isWritable_of_fitsWord {n : Int} (fits : fitsWord n = true) :
    (Value.int n).isWritable = true := by
  have bounds : -0x8000000000000000 ≤ n ∧ n < 0x8000000000000000 := by
    simpa [fitsWord] using fits
  have small : n.natAbs < Nat.pow 10 20 := by
    have size : (Nat.pow 10 20 : Nat) = 100000000000000000000 := by decide
    rw [size]
    omega
  have more : ∀ digits, 20 ≤ digits → Nat.pow 10 20 ≤ Nat.pow 10 digits :=
    fun digits enough => Nat.pow_le_pow_right (by decide) enough
  have short : n.natAbs < Value.writtenLimit := by
    unfold Value.writtenLimit
    exact Nat.lt_of_lt_of_le small (more Text.mostDigits (by decide))
  simp only [Value.isWritable, short, decide_true]

end LinearProblem

/-! ## Summaries -/

namespace Search

theorem of_summarise {search : Search} {total : Value} {winner : Validated Mix}
    {summary : Summary} (summed : search.summarise total (some winner) = .ok summary) :
    winner.candidate.toEntries = .ok summary.attributes ∧
      (∃ verdicts, winner.verdictsByName (search.constraints.map Constraint.name) = .ok verdicts ∧
        summary.verdicts = Entries.underTexts verdicts) ∧
      search.problem.descriptions = .ok summary.constraints ∧
      summary.goal = winner.candidate.goal := by
  obtain ⟨attributes, entries, made⟩ := except_bind_eq_ok_iff.mp summed
  obtain ⟨verdicts, named, made⟩ := except_bind_eq_ok_iff.mp made
  obtain ⟨descriptions, described, made⟩ := except_bind_eq_ok_iff.mp made
  cases made
  exact ⟨entries, ⟨verdicts, named, rfl⟩, described, rfl⟩

end Search

/-- All verdicts on what is found are in favour. -/
theorem Sampler.IsFinding.verdicts_eq {σ α : Type} {sampler : Sampler σ α} {entry : Validated α}
    (finding : sampler.IsFinding entry) :
    entry.verdicts = sampler.constraints.map fun _ => .bool true := by
  obtain ⟨_, _, validates⟩ := finding.judged
  obtain ⟨_, count, agree⟩ := Constraint.validate_shape validates
  rw [List.map_const', ← count]
  exact List.eq_replicate_of_mem (agree.mp finding.isValid)

namespace Summary

/-- There is one verdict for each constraint, in their order, in favour, and under a name under
which the description of that constraint is found. -/
def ShowsConstraints (summary : Summary) (problem : LinearProblem) : Prop :=
  List.Forall₂ (fun constraint verdict => verdict.2 = .bool true ∧ ∃ description,
    constraint.description (.list problem.names) = .ok description ∧
      Entries.get? summary.constraints verdict.1 = some (.str description))
    problem.constraints summary.verdicts

/-- The line for a variable and its value. -/
def attributeLine (name : Value) (value : Int) : Text :=
  "  " ++ name.text ++ " = " ++ (Value.int value).text

/-- The line for a constraint that holds and its description. -/
def heldLine (name : Value) (description : Text) : Text :=
  "  " ++ padText 16 name.text ++ " " ++ padText 28 description ++ " " ++ "ok"

/-- The report has one line for each variable, with its value, and one for each constraint, with its
description and the word that it holds. -/
def Reports (summary : Summary) (problem : LinearProblem) (point : List Int) : Prop :=
  ∃ descriptions : List Text,
    List.Forall₂ (fun constraint description =>
      constraint.description (.list problem.names) = .ok description) problem.constraints
      descriptions ∧
    summary.report = .ok ("[search] best candidate:" ::
      (List.zipWith attributeLine problem.names point ++
        ("  goal = " ++ summary.goal.text) :: "[search] constraints:" ::
          List.zipWith heldLine (problem.constraints.map LinearConstraint.name) descriptions))

/-! ## Lines -/

theorem attributeLines_zip {names : List Text} {point : List Int}
    (writable : ∀ n ∈ point, (Value.int n).isWritable = true) :
    attributeLines ((names.map Value.str).zip (point.map .int)) =
      .ok (List.zipWith attributeLine (names.map .str) point) := by
  induction names generalizing point with
  | nil => rfl
  | cons name rest inductionHypothesis =>
      cases point with
      | nil => rfl
      | cons n others =>
          obtain ⟨first, later⟩ := List.forall_mem_cons.mp writable
          have value : (Value.int n).written = .ok (Value.int n).text :=
            Value.written_eq_ok_iff.mpr ⟨first, rfl⟩
          rw [List.map_cons, List.map_cons, List.zip_cons_cons, attributeLines, value,
            inductionHypothesis later]
          rfl

variable {descriptions : List (Value × Value)} {names texts : List Text}

theorem constraintLines_of_found (count : names.length = texts.length)
    (found : ∀ name text, (name, text) ∈ names.zip texts →
      Entries.get? descriptions (Value.str name) = some (.str text)) :
    constraintLines descriptions (Entries.underTexts (names.map fun name => (name, .bool true))) =
      .ok (List.zipWith heldLine (names.map .str) texts) := by
  induction names generalizing texts with
  | nil => rfl
  | cons name rest inductionHypothesis =>
      cases texts with
      | nil => cases count
      | cons text others =>
          have here := found name text List.mem_cons_self
          have line : constraintLine descriptions (.str name) (.bool true) =
              .ok (heldLine (.str name) text) := by
            unfold constraintLine
            rw [here]
            rfl
          have later := inductionHypothesis (Nat.succ.inj count) fun other words member =>
            found other words (List.mem_cons_of_mem _ member)
          change (constraintLine descriptions (.str name) (.bool true) >>= fun line =>
            constraintLines descriptions (Entries.underTexts (rest.map fun name =>
              (name, .bool true))) >>= fun others => .ok (line :: others)) = _
          rw [line, later]
          rfl

theorem forall₂_of_constraintLines {entries : List (Value × Value)} {lines : List Text}
    (made : constraintLines descriptions entries = .ok lines) :
    List.Forall₂ (fun entry line => constraintLine descriptions entry.1 entry.2 = .ok line)
      entries lines := by
  induction entries generalizing lines with
  | nil =>
      cases made
      exact .nil
  | cons entry rest inductionHypothesis =>
      obtain ⟨line, first, made⟩ := except_bind_eq_ok_iff.mp made
      obtain ⟨others, later, same⟩ := except_bind_eq_ok_iff.mp made
      cases same
      exact .cons first (inductionHypothesis later)

theorem head?_drop_line (name rest : Text) :
    (("  " ++ (padText 16 name ++ rest) : Text).drop 2).head? = (padText 16 name).head? := by
  have filled : padText 16 name ≠ [] := by
    rw [padText, Ne, List.append_eq_nil_iff]
    rintro ⟨rfl, blanks⟩
    cases blanks
  exact List.head?_append_of_ne_nil _ filled

/-- After two blanks, the line for a constraint starts with its name. -/
theorem head?_constraintLine {name : Text} {verdict : Value} {line : Text}
    (made : constraintLine descriptions (.str name) verdict = .ok line) :
    (line.drop 2).head? = (padText 16 name).head? := by
  obtain ⟨_, same, made⟩ := except_bind_eq_ok_iff.mp made
  cases same
  obtain ⟨_, _, made⟩ := except_bind_eq_ok_iff.mp made
  cases made
  simp only [List.append_assoc]
  exact head?_drop_line name _

theorem head?_heldLine (name description : Text) :
    ((heldLine (.str name) description).drop 2).head? = (padText 16 name).head? := by
  unfold heldLine
  simp only [List.append_assoc]
  exact head?_drop_line name _

theorem bestLines_eq_ok_iff {summary : Summary} {lines : List Text} :
    summary.bestLines = .ok lines ↔ ∃ attributes constraints,
      attributeLines summary.attributes = .ok attributes ∧ summary.goal.isWritable = true ∧
        constraintLines summary.constraints summary.verdicts = .ok constraints ∧
          lines = ("[search] best candidate:" : Text) :: (attributes ++
            ("  goal = " ++ summary.goal.text) :: "[search] constraints:" :: constraints) := by
  constructor
  · intro made
    obtain ⟨attributes, shown, made⟩ := except_bind_eq_ok_iff.mp made
    obtain ⟨goal, written, made⟩ := except_bind_eq_ok_iff.mp made
    obtain ⟨constraints, judged, made⟩ := except_bind_eq_ok_iff.mp made
    obtain ⟨writable, rfl⟩ := Value.written_eq_ok_iff.mp written
    cases made
    exact ⟨attributes, constraints, shown, writable, judged, rfl⟩
  · rintro ⟨attributes, constraints, shown, writable, judged, rfl⟩
    have written : summary.goal.written = .ok summary.goal.text :=
      Value.written_eq_ok_iff.mpr ⟨writable, rfl⟩
    rw [bestLines, shown, written, judged]
    rfl

/-! ## What is shown -/

theorem forall₂_of_found {variableNames : Value} {linear : List LinearConstraint}
    (described : List.Forall₂ (fun constraint text =>
      constraint.description variableNames = .ok text) linear texts)
    (count : names.length = texts.length)
    (found : ∀ name text, (name, text) ∈ names.zip texts →
      Entries.get? descriptions (Value.str name) = some (.str text)) :
    List.Forall₂ (fun constraint verdict => verdict.2 = .bool true ∧ ∃ description,
      constraint.description variableNames = .ok description ∧
        Entries.get? descriptions verdict.1 = some (.str description))
      linear (Entries.underTexts (names.map fun name => (name, .bool true))) := by
  induction described generalizing names with
  | nil =>
      cases List.length_eq_zero_iff.mp count
      exact .nil
  | @cons constraint text rest others isDescription _ inductionHypothesis =>
      cases names with
      | nil => cases count
      | cons name later =>
          have here := found name text List.mem_cons_self
          exact .cons ⟨rfl, text, isDescription, here⟩ (inductionHypothesis (Nat.succ.inj count)
            fun other words member => found other words (List.mem_cons_of_mem _ member))

/-- What a summary of a search that has found something holds of the constraints of a problem, which
have these names and these descriptions. -/
structure Describes (summary : Summary) (problem : LinearProblem) (names texts : List Text) :
    Prop where
  named : problem.constraints.map LinearConstraint.name = names.map .str
  nodup : names.Nodup
  described : List.Forall₂ (fun constraint text =>
    constraint.description (.list problem.names) = .ok text) problem.constraints texts
  constraints : summary.constraints = Entries.underTexts (names.zip (texts.map .str))
  verdicts : summary.verdicts = Entries.underTexts (Entries.ofList
    ((ConstraintItem.shownNamesFrom 0 names).map fun name => (name, .bool true)))

namespace Describes

variable {summary : Summary} {problem : LinearProblem}

theorem length_texts (describes : summary.Describes problem names texts) :
    names.length = texts.length := by
  rw [← describes.described.length_eq, LinearConstraint.length_of_named describes.named]

theorem get?_constraints (describes : summary.Describes problem names texts) (name text : Text)
    (member : (name, text) ∈ names.zip texts) :
    Entries.get? summary.constraints (Value.str name) = some (.str text) := by
  have keys : (names.zip (texts.map Value.str)).map Prod.fst = names :=
    List.map_fst_zip (Nat.le_of_eq (by rw [List.length_map, describes.length_texts]))
  rw [describes.constraints, Entries.get?_underTexts]
  refine Entries.get?_of_mem (by rw [keys]; exact describes.nodup) ?_
  rw [List.zip_map_right]
  exact List.mem_map.mpr ⟨(name, text), member, rfl⟩

theorem mem_of_get?_constraints (describes : summary.Describes problem names texts) {name : Text}
    {value : Value} (found : Entries.get? summary.constraints (Value.str name) = some value) :
    name ∈ names := by
  rw [describes.constraints, Entries.get?_underTexts] at found
  exact (List.of_mem_zip (Entries.mem_of_get? found)).1

/-- There are as many verdicts as constraints exactly if these go by different names. -/
theorem length_verdicts_eq_iff (describes : summary.Describes problem names texts) :
    summary.verdicts.length = names.length ↔ (ConstraintItem.shownNamesFrom 0 names).Nodup ∧
      summary.verdicts = Entries.underTexts
        ((ConstraintItem.shownNamesFrom 0 names).map fun name => (name, .bool true)) := by
  have keys : ((ConstraintItem.shownNamesFrom 0 names).map fun name =>
      (name, Value.bool true)).map Prod.fst = ConstraintItem.shownNamesFrom 0 names := by
    rw [List.map_map]
    exact List.map_id _
  constructor
  · intro count
    have nodup : (ConstraintItem.shownNamesFrom 0 names).Nodup := by
      rw [← keys]
      refine Entries.nodup_of_length_ofList ?_
      rw [describes.verdicts, Entries.underTexts, List.length_map] at count
      rw [count, List.length_map, ConstraintItem.length_shownNamesFrom]
    have verdicts := describes.verdicts
    rw [Entries.ofList_of_nodup (by rw [keys]; exact nodup)] at verdicts
    exact ⟨nodup, verdicts⟩
  · rintro ⟨_, verdicts⟩
    rw [verdicts, Entries.underTexts, List.length_map, List.length_map,
      ConstraintItem.length_shownNamesFrom]

/-- Constraints that keep their names have their verdicts under these. -/
theorem verdicts_of_own (describes : summary.Describes problem names texts)
    (own : ∀ name ∈ names, ConstraintItem.IsOwnName name) :
    summary.verdicts = Entries.underTexts (names.map fun name => (name, .bool true)) := by
  have keys : (names.map fun name => (name, Value.bool true)).map Prod.fst = names := by
    rw [List.map_map]
    exact List.map_id names
  rw [describes.verdicts, ConstraintItem.shownNamesFrom_of_own own,
    Entries.ofList_of_nodup (by rw [keys]; exact describes.nodup)]

theorem showsConstraints_of_own (describes : summary.Describes problem names texts)
    (own : ∀ name ∈ names, ConstraintItem.IsOwnName name) : summary.ShowsConstraints problem := by
  unfold ShowsConstraints
  rw [describes.verdicts_of_own own]
  exact forall₂_of_found describes.described describes.length_texts describes.get?_constraints

/-- If every constraint has its verdict under a name with its description, then no two go by the
same name, and a name for a position would be that of the constraint there. -/
theorem own_of_showsConstraints (describes : summary.Describes problem names texts)
    (shows : summary.ShowsConstraints problem) :
    ∀ name ∈ names, ConstraintItem.IsOwnName name := by
  have count : summary.verdicts.length = names.length := by
    rw [← shows.length_eq, LinearConstraint.length_of_named describes.named]
  obtain ⟨nodup, verdicts⟩ := describes.length_verdicts_eq_iff.mp count
  have present : ∀ name ∈ ConstraintItem.shownNamesFrom 0 names, name ∈ names := by
    intro name member
    have among : (Value.str name, Value.bool true) ∈ summary.verdicts := by
      rw [verdicts, Entries.underTexts, List.map_map]
      exact List.mem_map.mpr ⟨name, member, rfl⟩
    rw [← List.map_snd_zip (Nat.le_of_eq shows.length_eq.symm)] at among
    obtain ⟨⟨_, _⟩, paired, rfl⟩ := List.mem_map.mp among
    obtain ⟨_, _, _, found⟩ := List.forall₂_zip shows paired
    exact describes.mem_of_get?_constraints found
  intro name member
  -- The constraint there goes by its position.  Something is described under that name, so that
  -- it has been given to some constraint, which keeps it: two constraints go by one name.
  by_contra other
  obtain ⟨place, here⟩ := List.mem_iff_getElem?.mp member
  have called := ConstraintItem.getElem?_shownNamesFrom here
  rw [ConstraintItem.shownName, if_neg other] at called
  obtain ⟨again, there⟩ := List.mem_iff_getElem?.mp (present _ (List.mem_of_getElem? called))
  have calledThere := ConstraintItem.getElem?_shownNamesFrom there
  have own := ConstraintItem.isOwnName_position place
  rw [ConstraintItem.shownName, if_pos own] at calledThere
  have inside := (List.getElem?_eq_some_iff.mp called).1
  cases (List.getElem?_inj inside nodup).mp (called.trans calledThere.symm)
  cases here.symm.trans there
  exact other own

section Reports

variable {winner : Validated Mix} {variableNames : List Text} {point : List Int}

theorem attributeLines_eq (called : problem.names = variableNames.map .str)
    (attributes : summary.attributes = problem.names.zip (point.map .int))
    (short : ∀ n ∈ point, (Value.int n).isWritable = true) :
    attributeLines summary.attributes = .ok (List.zipWith attributeLine problem.names point) := by
  rw [attributes, called]
  exact attributeLines_zip short

theorem reports_of_own (describes : summary.Describes problem names texts)
    (found : summary.best = some winner)
    (shown : attributeLines summary.attributes =
      .ok (List.zipWith attributeLine problem.names point))
    (own : ∀ name ∈ names, ConstraintItem.IsOwnName name)
    (writable : summary.goal.isWritable = true) : summary.Reports problem point := by
  refine ⟨texts, describes.described, ?_⟩
  have judged := constraintLines_of_found describes.length_texts describes.get?_constraints
  rw [← describes.verdicts_of_own own, ← describes.named] at judged
  rw [report, found]
  exact bestLines_eq_ok_iff.mpr ⟨_, _, shown, writable, judged, rfl⟩

/-- If every constraint has its line, then these lines start with the names of the constraints, and
not with those of their positions. -/
theorem own_of_reports (describes : summary.Describes problem names texts)
    (found : summary.best = some winner)
    (shown : attributeLines summary.attributes =
      .ok (List.zipWith attributeLine problem.names point))
    (reports : summary.Reports problem point) :
    (∀ name ∈ names, ConstraintItem.IsOwnName name) ∧ summary.goal.isWritable = true := by
  obtain ⟨descriptions, described, reported⟩ := reports
  rw [report, found] at reported
  obtain ⟨_, lines, again, writable, judged, same⟩ := bestLines_eq_ok_iff.mp reported
  cases again.symm.trans shown
  have held : List.zipWith heldLine (names.map .str) descriptions = lines := by
    rw [← describes.named]
    exact (List.cons.inj (List.cons.inj (List.append_cancel_left (List.cons.inj same).2)).2).2
  have pairs : names.length = descriptions.length := by
    rw [← described.length_eq, LinearConstraint.length_of_named describes.named]
  have judging := forall₂_of_constraintLines judged
  have count : summary.verdicts.length = names.length := by
    rw [judging.length_eq, ← held, List.length_zipWith, List.length_map, ← pairs, Nat.min_self]
  obtain ⟨_, verdicts⟩ := describes.length_verdicts_eq_iff.mp count
  refine ⟨fun name member => ?_, writable⟩
  -- The same line cannot start with the name and with that of the position.
  by_contra other
  obtain ⟨place, here⟩ := List.mem_iff_getElem?.mp member
  have inside : place < descriptions.length := pairs ▸ (List.getElem?_eq_some_iff.mp here).1
  have line : lines[place]? = some (heldLine (.str name) descriptions[place]) := by
    rw [← held, List.getElem?_zipWith, List.getElem?_map, here, List.getElem?_eq_getElem inside]
    rfl
  have verdict : summary.verdicts[place]? = some (.str s!"c{place}", .bool true) := by
    rw [verdicts, Entries.underTexts, List.getElem?_map, List.getElem?_map,
      ConstraintItem.getElem?_shownNamesFrom here, ConstraintItem.shownName, if_neg other]
    rfl
  have paired : ((.str s!"c{place}", .bool true), heldLine (.str name) descriptions[place]) ∈
      summary.verdicts.zip lines :=
    List.mem_of_getElem? (List.getElem?_zip_eq_some.mpr ⟨verdict, line⟩)
  have start := head?_constraintLine (List.forall₂_zip judging paired)
  rw [head?_heldLine] at start
  exact ConstraintItem.head?_padText_ne other place start

end Reports

end Describes

end Summary

/-! ## Searches -/

/-- Values are shown under the names of their variables if these are different. -/
theorem Mix.toEntries_eq {mix : Mix} {names : List Text} (some : names ≠ [])
    (called : mix.names = names.map .str) (nodup : mix.names.Nodup)
    (count : mix.names.length = mix.values.length) :
    mix.toEntries = .ok (mix.names.zip mix.values) := by
  rw [called] at nodup
  rw [called, List.length_map] at count
  have given : mix.names.isEmpty = false := by
    rw [called, List.isEmpty_eq_false_iff, Ne, List.map_eq_nil_iff]
    exact some
  rw [toEntries, shownNames, given, called]
  exact Entries.putAll_zip (List.Nodup.of_map _ nodup) count

/-- A constraint that goes by the name that its problem gives it. -/
def LinearConstraint.KeepsName (constraint : LinearConstraint) : Prop :=
  ∃ name, constraint.name = .str name ∧ ConstraintItem.IsOwnName name

theorem LinearConstraint.forall_keepsName_iff {linear : List LinearConstraint} {names : List Text}
    (named : linear.map LinearConstraint.name = names.map .str) :
    (∀ constraint ∈ linear, constraint.KeepsName) ↔
      ∀ name ∈ names, ConstraintItem.IsOwnName name := by
  constructor
  · intro keeps name member
    have given : Value.str name ∈ linear.map LinearConstraint.name := by
      rw [named]
      exact List.mem_map.mpr ⟨name, member, rfl⟩
    obtain ⟨constraint, present, called⟩ := List.mem_map.mp given
    obtain ⟨_, same, own⟩ := keeps constraint present
    cases called.symm.trans same
    exact own
  · intro own constraint present
    have given : constraint.name ∈ names.map Value.str := by
      rw [← named]
      exact List.mem_map.mpr ⟨constraint, present, rfl⟩
    obtain ⟨name, member, called⟩ := List.mem_map.mp given
    exact ⟨name, called.symm, own name member⟩

namespace Search

variable {config : Configuration} {search : Search} {problem : LinearProblem} {total : Value}
  {winner : Validated Mix} {summary : Summary}

theorem exists_describes (read : LinearProblem.ofValue config.problem = .ok problem)
    (distinct : (problem.constraints.map LinearConstraint.name).Nodup)
    (made : ofConfig config = .ok search)
    (summed : search.summarise total (some winner) = .ok summary)
    (finding : search.sampler.IsFinding winner) :
    search.problem = problem ∧ ∃ names texts, summary.Describes problem names texts := by
  obtain ⟨_, ⟨verdicts, shown, sameVerdicts⟩, described, _⟩ := of_summarise summed
  obtain ⟨_, _, constraints, again, _, given, rfl⟩ := ofConfig_eq_ok_iff.mp made
  cases again.symm.trans read
  obtain ⟨names, named⟩ := LinearConstraint.exists_names (LinearProblem.of_ofValue read).2
  have nodup : names.Nodup := List.Nodup.of_map _ (named ▸ distinct)
  obtain ⟨texts, descriptions, sameConstraints⟩ :=
    LinearProblem.exists_of_descriptions named nodup described
  refine ⟨rfl, names, texts, named, nodup, descriptions, sameConstraints, ?_⟩
  have called : constraints.map Constraint.name = ConstraintItem.shownNamesFrom 0 names :=
    LinearProblem.names_of_toConstraintsFrom named given
  have favourable : winner.verdicts = constraints.map fun _ => .bool true := finding.verdicts_eq
  have pairs : (constraints.map Constraint.name).zip winner.verdicts =
      (ConstraintItem.shownNamesFrom 0 names).map fun name => (name, .bool true) := by
    rw [← called, favourable, List.zip_map', List.map_map]
    rfl
  have count : (constraints.map Constraint.name).length = winner.verdicts.length := by
    rw [favourable, List.length_map, List.length_map]
  change winner.verdictsByName (constraints.map Constraint.name) = .ok verdicts at shown
  rw [Validated.verdictsByName, if_pos count, pairs] at shown
  cases shown
  exact sameVerdicts

/-- What is shown of a search that has found something, if its problem gives different names to its
variables and to its constraints.  The values of the variables are those that have been drawn.  Each
constraint is shown with its own verdict and its own description exactly if all keep their names,
and the report shows all of this exactly if the goal can be written as well. -/
theorem run_shows {pool : ProcessPool} {elapsed : Nat} {lines last : List Text}
    (read : LinearProblem.ofValue config.problem = .ok problem) (apart : problem.names.Nodup)
    (distinct : (problem.constraints.map LinearConstraint.name).Nodup)
    (ran : run config pool elapsed lines = .ok summary last)
    (found : summary.best = some winner) :
    ∃ point : List Int,
      (∃ start after : Generator × Unit, problem.draw start = .ok winner.candidate after) ∧
        winner.candidate.values = point.map .int ∧
        List.Forall₂ (· ≤ ·) problem.lower point ∧ List.Forall₂ (· ≤ ·) point problem.upper ∧
        summary.attributes = problem.names.zip (point.map .int) ∧
        (summary.ShowsConstraints problem ↔
          ∀ constraint ∈ problem.constraints, constraint.KeepsName) ∧
        (summary.Reports problem point ↔
          (∀ constraint ∈ problem.constraints, constraint.KeepsName) ∧
            winner.candidate.goal.isWritable = true) := by
  obtain ⟨search, total, made, summed, finding⟩ := isFinding_of_run ran found
  obtain ⟨attributes, _, _, goal⟩ := of_summarise summed
  obtain ⟨rfl, names, texts, describes⟩ := exists_describes read distinct made summed finding
  obtain ⟨start, after, drawn⟩ := finding.drawn
  obtain ⟨formed, _⟩ := LinearProblem.of_ofValue read
  obtain ⟨point, values, called, above, below, fits⟩ :=
    LinearProblem.exists_point_of_draw formed drawn
  obtain ⟨variableNames, some, named⟩ := LinearProblem.exists_names_of_ofValue read
  have count : winner.candidate.names.length = winner.candidate.values.length := by
    rw [called, values, List.length_map, ← formed.lower, above.length_eq]
  have entries := Mix.toEntries_eq some (called.trans named) (called ▸ apart) count
  have shown : summary.attributes = search.problem.names.zip (point.map .int) := by
    rw [← called, ← values]
    exact Except.ok.inj (attributes.symm.trans entries)
  have written := Summary.Describes.attributeLines_eq named shown fun n member =>
    LinearProblem.isWritable_of_fitsWord (fits n member)
  rw [← goal]
  refine ⟨point, ⟨start, after, drawn⟩, values, above, below, shown, ?_, ?_⟩
  · rw [LinearConstraint.forall_keepsName_iff describes.named]
    exact ⟨describes.own_of_showsConstraints, describes.showsConstraints_of_own⟩
  · rw [LinearConstraint.forall_keepsName_iff describes.named]
    exact ⟨describes.own_of_reports found written,
      fun ⟨own, writable⟩ => describes.reports_of_own found written own writable⟩

/-- One worker that draws one digit, with constraints of the given names. -/
def digitUnder (names : List Text) : Configuration where
  samplesPerWorker := .int 1
  workers := .int 1
  seed := .int 1
  useProcesses := .bool false
  problem := .map [
    (.str "variables", .list [.str "x1"]),
    (.str "objective", .list [.int 1]),
    (.str "lower", .int 0),
    (.str "upper", .int 9),
    (.str "constraints", .list (names.map fun name => .map [
      (.str "name", .str name), (.str "coefficients", .list [.int 1]), (.str "bound", .int 100)]))]

/-- The problem of drawing one digit. -/
def digitProblem (names : List Text) : LinearProblem :=
  ⟨[.str "x1"], [.int 1], [0], [9], names.map fun name =>
    ⟨.str name, [.int 1], .int 100, .atMost⟩, .maximise⟩

/-- The number of verdicts on what a search has found, if it has found something whose goal can be
written. -/
def verdictCount? : EStateM.Result Fault (List Text) Summary → Option Nat
  | .ok ⟨some winner, _, _, _, _, verdicts, _⟩ _ =>
      if winner.candidate.goal.isWritable then some verdicts.length else none
  | _ => none

theorem of_verdictCount?_eq_some {result : EStateM.Result Fault (List Text) Summary} {count : Nat}
    (counted : verdictCount? result = some count) :
    ∃ summary last winner, result = .ok summary last ∧ summary.best = some winner ∧
      winner.candidate.goal.isWritable = true ∧ summary.verdicts.length = count := by
  unfold verdictCount? at counted
  split at counted
  · split at counted
    · cases counted
      exact ⟨_, _, _, rfl, rfl, ‹_›, rfl⟩
    · cases counted
  · cases counted

theorem run_shows_capacity :
    ∃ summary last, run (digitUnder ["capacity"]) .available 0 [] = .ok summary last ∧
      summary.ShowsConstraints (digitProblem ["capacity"]) ∧
        ∃ point : List Int, summary.attributes = (digitProblem ["capacity"]).names.zip
          (point.map .int) ∧ summary.Reports (digitProblem ["capacity"]) point := by
  have counted : verdictCount? (run (digitUnder ["capacity"]) .available 0 []) = some 1 := by
    decide +kernel
  obtain ⟨summary, last, winner, ran, found, writable, _⟩ := of_verdictCount?_eq_some counted
  have keeps : ∀ constraint ∈ (digitProblem ["capacity"]).constraints, constraint.KeepsName := by
    intro constraint member
    cases List.mem_singleton.mp member
    exact ⟨"capacity", rfl, by decide⟩
  have read : LinearProblem.ofValue (digitUnder ["capacity"]).problem =
      .ok (digitProblem ["capacity"]) := rfl
  obtain ⟨point, _, _, _, _, attributes, shows, reports⟩ :=
    run_shows read (List.nodup_singleton _) (List.nodup_singleton _) ran found
  exact ⟨summary, last, ran, shows.mpr keeps, point, attributes, reports.mpr ⟨keeps, writable⟩⟩

/-- A constraint without a name goes by its position, here under the name that another constraint
has, and one verdict is lost. -/
theorem run_hides_unnamed :
    ∃ summary last winner,
      LinearProblem.ofValue (digitUnder ["", "c0"]).problem = .ok (digitProblem ["", "c0"]) ∧
        (digitProblem ["", "c0"]).names.Nodup ∧
        ((digitProblem ["", "c0"]).constraints.map LinearConstraint.name).Nodup ∧
        run (digitUnder ["", "c0"]) .available 0 [] = .ok summary last ∧
        summary.best = some winner ∧ summary.verdicts.length = 1 ∧
        ¬ summary.ShowsConstraints (digitProblem ["", "c0"]) := by
  have counted : verdictCount? (run (digitUnder ["", "c0"]) .available 0 []) = some 1 := by
    decide +kernel
  obtain ⟨summary, last, winner, ran, found, _, count⟩ := of_verdictCount?_eq_some counted
  have distinct : ((digitProblem ["", "c0"]).constraints.map LinearConstraint.name).Nodup := by
    refine List.nodup_cons.mpr ⟨fun member => ?_, List.nodup_singleton _⟩
    cases List.mem_singleton.mp member
  refine ⟨summary, last, winner, rfl, List.nodup_singleton _, distinct, ran, found, count,
    fun shows => ?_⟩
  have both := shows.length_eq
  rw [count] at both
  cases both

end Search

end RandomSearch
