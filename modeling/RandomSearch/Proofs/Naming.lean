import Mathlib.Data.List.Nodup
import RandomSearch.Proofs.Keys
import RandomSearch.Proofs.Refusals
import RandomSearch.Proofs.Verdicts
import RandomSearch.Record

/-!
# Verdicts under names

Constraints go by the names that they bring along, and those that bring none by their positions.
Verdicts are shown under these names.  Where several constraints go by one name, only the verdict of
the last of them is seen, so that all that is shown can be in favour of a candidate that is not
valid.
-/

namespace RandomSearch

variable {σ α : Type}

/-! ## Names that constraints go by -/

namespace ConstraintItem

/-- The name that an item brings along. -/
def ownName? : ConstraintItem σ α → Option Text
  | .named constraint => some constraint.name
  | .bare given defined _ =>
      let given := given.getD .null
      let name := if given.truthy then given else defined.getD .null
      if name.truthy && name != .str anonymous then some name.text else none
  | .other _ => none

/-- The name that stands for a position. -/
def positionName (position : Nat) : Text :=
  s!"c{position}"

theorem positionName_injective : Function.Injective positionName := by
  intro position other same
  have scalars : Function.Injective CodePoint.scalar := fun _ _ same => CodePoint.scalar.inj same
  have characters := List.map_injective_iff.mpr scalars same
  rw [String.toList_append, String.toList_append, List.append_cancel_left_eq] at characters
  have digits := congrArg (fun digits => Nat.ofDigitChars 10 digits 0) characters
  simpa using digits

theorem name_of_bareName {position : Nat} {given defined : Option Value}
    {predicate : α → Action σ Value} {name : Text}
    (named : bareName position given defined = .ok name) :
    name = ((ConstraintItem.bare given defined predicate).ownName?).getD
      (positionName position) := by
  unfold bareName at named
  unfold ownName?
  dsimp only at named ⊢
  generalize (if (given.getD .null).truthy then given.getD .null else defined.getD .null) =
    brought at named ⊢
  split at named
  · rename_i own
    rw [if_pos own]
    exact (Value.written_eq_ok_iff.mp named).2
  · rename_i unnamed
    rw [if_neg unnamed]
    exact (Except.ok.inj named).symm

theorem name_of_toConstraint {item : ConstraintItem σ α} {position : Nat}
    {constraint : Constraint σ α} (made : item.toConstraint position = .ok constraint) :
    constraint.name = item.ownName?.getD (positionName position) := by
  cases item with
  | named given =>
      cases made
      rfl
  | bare given defined predicate =>
      obtain ⟨name, named, same⟩ := except_bind_eq_ok_iff.mp made
      cases same
      exact name_of_bareName named
  | other value => cases made

/-- The names that stand for the positions of the items that bring none, from some position on. -/
def positionNamesFrom (position : Nat) (items : List (ConstraintItem σ α)) : List Text :=
  ((items.zipIdx position).filter fun place => place.1.ownName?.isNone).map fun place =>
    positionName place.2

theorem positionNamesFrom_cons (position : Nat) (item : ConstraintItem σ α)
    (rest : List (ConstraintItem σ α)) :
    positionNamesFrom position (item :: rest) =
      if item.ownName? = none then positionName position :: positionNamesFrom (position + 1) rest
      else positionNamesFrom (position + 1) rest := by
  unfold positionNamesFrom
  rw [List.zipIdx_cons]
  cases own : item.ownName? with
  | none => simp [own]
  | some name => simp [own]

/-- The names of positions are different. -/
theorem nodup_positionNamesFrom (position : Nat) (items : List (ConstraintItem σ α)) :
    (positionNamesFrom position items).Nodup := by
  have positions : ((items.zipIdx position).map Prod.snd).Nodup := by
    rw [List.zipIdx_map_snd]
    exact List.nodup_range'
  have kept := List.filter_sublist (p := fun place => place.1.ownName?.isNone)
    (l := items.zipIdx position)
  have nodup := List.Nodup.map positionName_injective (positions.sublist (kept.map Prod.snd))
  rw [List.map_map] at nodup
  exact nodup

theorem mem_positionNamesFrom_iff {items : List (ConstraintItem σ α)} {name : Text} :
    name ∈ positionNamesFrom 0 items ↔ ∃ (position : Nat) (item : ConstraintItem σ α),
      items[position]? = some item ∧ item.ownName? = none ∧ positionName position = name := by
  unfold positionNamesFrom
  simp only [List.mem_map, List.mem_filter, Option.isNone_iff_eq_none, Prod.exists,
    List.mem_zipIdx_iff_getElem?]
  constructor
  · rintro ⟨item, position, ⟨here, unnamed⟩, same⟩
    exact ⟨position, item, here, unnamed, same⟩
  · rintro ⟨position, item, here, unnamed, same⟩
    exact ⟨item, position, ⟨here, unnamed⟩, same⟩

/-- Constraints go by the names that they bring along, and the others by their positions. -/
theorem perm_names_of_toConstraintsFrom {position : Nat} {items : List (ConstraintItem σ α)}
    {constraints : List (Constraint σ α)}
    (made : toConstraintsFrom position items = .ok constraints) :
    (constraints.map Constraint.name).Perm
      (items.filterMap ownName? ++ positionNamesFrom position items) := by
  induction items generalizing position constraints with
  | nil =>
      cases made
      exact .nil
  | cons item rest inductionHypothesis =>
      obtain ⟨constraint, first, made⟩ := except_bind_eq_ok_iff.mp made
      obtain ⟨others, later, same⟩ := except_bind_eq_ok_iff.mp made
      cases same
      have called := name_of_toConstraint first
      have others := inductionHypothesis later
      rw [List.map_cons, positionNamesFrom_cons]
      cases own : item.ownName? with
      | some name =>
          rw [own, Option.getD_some] at called
          rw [List.filterMap_cons_some own, if_neg (Option.some_ne_none name), called]
          exact others.cons name
      | none =>
          rw [own, Option.getD_none] at called
          rw [List.filterMap_cons_none own, if_pos rfl, called]
          exact (others.cons _).trans List.perm_middle.symm

/-- The names that items bring along are different, and none of them is that of the position of an
item that brings none. -/
structure NamesDiffer (items : List (ConstraintItem σ α)) : Prop where
  own : (items.filterMap ownName?).Nodup
  positions : ∀ (position : Nat) (item : ConstraintItem σ α), items[position]? = some item →
    item.ownName? = none → positionName position ∉ items.filterMap ownName?

/-- Constraints go by different names exactly if these differ already in what they are made of. -/
theorem nodup_names_iff {items : List (ConstraintItem σ α)} {constraints : List (Constraint σ α)}
    (made : toConstraints items = .ok constraints) :
    (constraints.map Constraint.name).Nodup ↔ NamesDiffer items := by
  rw [(perm_names_of_toConstraintsFrom made).nodup_iff, List.nodup_append]
  constructor
  · rintro ⟨own, _, apart⟩
    refine ⟨own, fun position item here unnamed member => ?_⟩
    exact apart _ member _ (mem_positionNamesFrom_iff.mpr ⟨position, item, here, unnamed, rfl⟩) rfl
  · rintro ⟨own, positions⟩
    refine ⟨own, nodup_positionNamesFrom 0 items, ?_⟩
    rintro name member other place rfl
    obtain ⟨position, item, here, unnamed, rfl⟩ := mem_positionNamesFrom_iff.mp place
    exact positions position item here unnamed member

end ConstraintItem

/-! ## Verdicts under these names -/

namespace Constraint

/-- The verdicts on a candidate, each with the name of its constraint. -/
def namedVerdicts (constraints : List (Constraint σ α)) (entry : Validated α) :
    List (Text × Value) :=
  (constraints.map Constraint.name).zip entry.verdicts

variable {constraints : List (Constraint σ α)} {candidate : α} {before after : σ}
  {entry : Validated α}

theorem length_names_eq (validates : validate constraints candidate before = .ok entry after) :
    (constraints.map Constraint.name).length = entry.verdicts.length := by
  rw [List.length_map, (validate_shape validates).2.1]

theorem length_namedVerdicts (validates : validate constraints candidate before = .ok entry after) :
    (namedVerdicts constraints entry).length = constraints.length := by
  rw [namedVerdicts, List.length_zip, ← length_names_eq validates, List.length_map, Nat.min_self]

theorem map_fst_namedVerdicts
    (validates : validate constraints candidate before = .ok entry after) :
    (namedVerdicts constraints entry).map Prod.fst = constraints.map Constraint.name :=
  List.map_fst_zip (Nat.le_of_eq (length_names_eq validates))

theorem map_snd_namedVerdicts
    (validates : validate constraints candidate before = .ok entry after) :
    (namedVerdicts constraints entry).map Prod.snd = entry.verdicts :=
  List.map_snd_zip (Nat.le_of_eq (length_names_eq validates).symm)

theorem verdictsByName_of_validate
    (validates : validate constraints candidate before = .ok entry after) :
    entry.verdictsByName (constraints.map Constraint.name) =
      .ok (Entries.ofList (namedVerdicts constraints entry)) :=
  if_pos (length_names_eq validates)

/-- A candidate is valid exactly if all verdicts with names are in favour. -/
theorem isValid_iff_namedVerdicts
    (validates : validate constraints candidate before = .ok entry after) :
    entry.isValid = true ↔
      ∀ verdict ∈ namedVerdicts constraints entry, verdict.2 = .bool true := by
  rw [(validate_shape validates).2.2, ← map_snd_namedVerdicts validates, List.forall_mem_map]

theorem verdict_eq_of_mem (validates : validate constraints candidate before = .ok entry after)
    {name : Text} {verdict : Value} (member : (name, verdict) ∈ namedVerdicts constraints entry) :
    verdict = .bool true ∨ verdict = .bool false := by
  obtain ⟨answers, _, rfl⟩ := validate_eq_ok_iff.mp validates
  obtain ⟨answer, _, rfl⟩ := List.mem_map.mp (List.of_mem_zip member).2
  cases answer.truthy with
  | true => exact Or.inl rfl
  | false => exact Or.inr rfl

/-- All that is shown is in favour exactly if no constraint that is the last of its name is against
the candidate. -/
theorem forall_mem_ofList_iff
    (validates : validate constraints candidate before = .ok entry after) :
    (∀ verdict ∈ Entries.ofList (namedVerdicts constraints entry), verdict.2 = .bool true) ↔
      ∀ name, ¬ Entries.IsLast name (.bool false) (namedVerdicts constraints entry) := by
  constructor
  · intro favourable name last
    cases favourable _ (Entries.mem_ofList_iff.mpr last)
  · rintro none ⟨name, verdict⟩ shown
    have last := Entries.mem_ofList_iff.mp shown
    refine (verdict_eq_of_mem validates last.mem).resolve_right ?_
    rintro rfl
    exact none name last

/-- Of each name the verdict of the last constraint that goes by it is shown.  What is shown of a
valid candidate is in favour.  Every constraint has an entry, and all entries are in favour of valid
candidates only, exactly if the constraints go by different names. -/
theorem verdictsByName_agrees_iff {items : List (ConstraintItem σ α)}
    (made : ConstraintItem.toConstraints items = .ok constraints)
    (validates : validate constraints candidate before = .ok entry after) :
    ∃ shown, entry.verdictsByName (constraints.map Constraint.name) = .ok shown ∧
      (∀ name verdict, (name, verdict) ∈ shown ↔
        Entries.IsLast name verdict (namedVerdicts constraints entry)) ∧
      (entry.isValid = true → ∀ verdict ∈ shown, verdict.2 = .bool true) ∧
      ((∀ verdict ∈ shown, verdict.2 = .bool true) ↔
        ∀ name, ¬ Entries.IsLast name (.bool false) (namedVerdicts constraints entry)) ∧
      (shown.length = constraints.length ↔ ConstraintItem.NamesDiffer items) ∧
      (ConstraintItem.NamesDiffer items →
        ((∀ verdict ∈ shown, verdict.2 = .bool true) ↔ entry.isValid = true)) := by
  have count : (Entries.ofList (namedVerdicts constraints entry)).length = constraints.length ↔
      ConstraintItem.NamesDiffer items := by
    rw [← length_namedVerdicts validates, Entries.length_ofList_eq_iff,
      map_fst_namedVerdicts validates, ConstraintItem.nodup_names_iff made]
  refine ⟨_, verdictsByName_of_validate validates, fun name verdict => Entries.mem_ofList_iff, ?_,
    forall_mem_ofList_iff validates, count, ?_⟩
  · rintro valid ⟨name, verdict⟩ shown
    exact (isValid_iff_namedVerdicts validates).mp valid _ (Entries.mem_ofList_iff.mp shown).mem
  · intro differ
    have nodup : ((namedVerdicts constraints entry).map Prod.fst).Nodup := by
      rw [map_fst_namedVerdicts validates]
      exact (ConstraintItem.nodup_names_iff made).mpr differ
    rw [Entries.ofList_of_nodup nodup]
    exact (isValid_iff_namedVerdicts validates).symm

/-- A constraint, a predicate with a name, one without, and an object with a name. -/
def wellNamed : List (ConstraintItem Unit Record) :=
  [.named ⟨"c1", (Predicate.constant (.int 1)).toAction⟩,
    .bare none (some (.str "y_below")) (Predicate.constant (.str "")).toAction,
    .bare none (some (.str ConstraintItem.anonymous)) (Predicate.constant (.bool true)).toAction,
    .bare (some (.str "total")) none (Predicate.constant (.bool true)).toAction]

theorem verdictsByName_agrees_iff_wellNamed :
    ∃ constraints entry shown, ConstraintItem.toConstraints wellNamed = .ok constraints ∧
      validate constraints (⟨[]⟩ : Record) () = .ok entry () ∧
      entry.verdictsByName (constraints.map Constraint.name) = .ok shown ∧ shown.length = 4 ∧
      ConstraintItem.NamesDiffer wellNamed ∧
      ((∀ verdict ∈ shown, verdict.2 = .bool true) ↔ entry.isValid = true) := by
  have validates : ∃ constraints entry, ConstraintItem.toConstraints wellNamed = .ok constraints ∧
      validate constraints (⟨[]⟩ : Record) () = .ok entry () := ⟨_, _, rfl, rfl⟩
  obtain ⟨constraints, entry, made, validates⟩ := validates
  obtain ⟨shown, named, _, _, _, count, agrees⟩ := verdictsByName_agrees_iff made validates
  have four : shown.length = 4 := by
    cases made
    cases validates
    cases named
    rfl
  have differ : ConstraintItem.NamesDiffer wellNamed := count.mp (by cases made; exact four)
  exact ⟨constraints, entry, shown, made, validates, named, four, differ, agrees differ⟩

/-- A constraint against every candidate, which is named like the position of the predicate without
a name behind it. -/
def misnamed : List (ConstraintItem Unit Record) :=
  [.named ⟨"c1", (Predicate.constant (.bool false)).toAction⟩,
    .bare none (some (.str ConstraintItem.anonymous)) (Predicate.constant (.bool true)).toAction]

/-- The verdict on what is not valid is lost, and all that is shown is in favour. -/
theorem verdictsByName_misnamed :
    ∃ constraints entry shown, ConstraintItem.toConstraints misnamed = .ok constraints ∧
      validate constraints (⟨[]⟩ : Record) () = .ok entry () ∧
      entry.verdictsByName (constraints.map Constraint.name) = .ok shown ∧
      shown.length ≠ constraints.length ∧ (∀ verdict ∈ shown, verdict.2 = .bool true) ∧
      entry.isValid = false := by
  refine ⟨_, _, [("c1", .bool true)], rfl, rfl, rfl, by decide, ?_, rfl⟩
  intro verdict member
  cases List.mem_singleton.mp member
  rfl

end Constraint

end RandomSearch
