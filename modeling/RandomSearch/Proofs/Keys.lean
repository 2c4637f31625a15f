import Mathlib.Data.List.Perm.Subperm
import RandomSearch.Value.Convert

/-!
# Maps with texts for keys

Names are texts, and maps with names for keys are kept with values for keys.  Such a map is put
together and asked like one whose keys are the texts themselves, where two keys are the same only if
they are equal.
-/

namespace RandomSearch

namespace Entries

variable {κ β : Type} [BEq κ] [LawfulBEq κ]

/-! ## Keys that come once -/

theorem get?_of_mem {entries : List (κ × β)} (nodup : (entries.map Prod.fst).Nodup) {key : κ}
    {value : β} (member : (key, value) ∈ entries) : get? entries key = some value := by
  induction entries with
  | nil => cases member
  | cons entry rest inductionHypothesis =>
      obtain ⟨new, others⟩ := List.nodup_cons.mp nodup
      rcases List.mem_cons.mp member with rfl | later
      · simp [get?]
      · have differ : ¬ (entry.1 == key) = true := by
          intro same
          rw [eq_of_beq same] at new
          exact new (List.mem_map.mpr ⟨_, later, rfl⟩)
        have found := inductionHypothesis others later
        unfold get? at found ⊢
        rw [List.find?_cons, eq_false_of_ne_true differ]
        exact found

theorem mem_of_get? {entries : List (κ × β)} {key : κ} {value : β}
    (found : get? entries key = some value) : (key, value) ∈ entries := by
  obtain ⟨entry, here, rfl⟩ := Option.map_eq_some_iff.mp found
  have same : (entry.1 == key) = true :=
    List.find?_some (p := fun entry : κ × β => entry.1 == key) here
  rw [← eq_of_beq same]
  exact List.mem_of_find?_eq_some here

/-- A map has each of its keys once, and no other keys than those that have been put. -/
theorem nodup_ofList (entries : List (κ × β)) :
    ((ofList entries).map Prod.fst).Nodup ∧
      (ofList entries).map Prod.fst ⊆ entries.map Prod.fst := by
  -- The induction is on the entries still to be put, over whatever map there is so far.
  have puts : ∀ (rest earlier : List (κ × β)), (earlier.map Prod.fst).Nodup →
      ((rest.foldl (fun map entry => put entry.1 entry.2 map) earlier).map Prod.fst).Nodup ∧
        (rest.foldl (fun map entry => put entry.1 entry.2 map) earlier).map Prod.fst ⊆
          earlier.map Prod.fst ++ rest.map Prod.fst := by
    intro rest
    induction rest with
    | nil =>
        intro earlier nodup
        exact ⟨nodup, List.subset_append_left _ _⟩
    | cons entry rest inductionHypothesis =>
        intro earlier nodup
        rw [List.foldl_cons, List.map_cons]
        have keys := map_fst_put entry.1 entry.2 earlier
        by_cases present : entry.1 ∈ earlier.map Prod.fst
        · rw [if_pos present] at keys
          obtain ⟨once, among⟩ := inductionHypothesis (put entry.1 entry.2 earlier) (keys ▸ nodup)
          rw [keys] at among
          have added : rest.map Prod.fst ⊆ earlier.map Prod.fst ++ entry.1 :: rest.map Prod.fst :=
            List.subset_append_of_subset_right _ (List.subset_cons_self _ _)
          exact ⟨once, List.Subset.trans among
            (List.append_subset.mpr ⟨List.subset_append_left _ _, added⟩)⟩
        · rw [if_neg present] at keys
          have later : ((put entry.1 entry.2 earlier).map Prod.fst).Nodup := by
            rw [keys]
            refine List.nodup_append.mpr ⟨nodup, List.pairwise_singleton _ _, ?_⟩
            intro key member other last same
            rw [same, List.mem_singleton.mp last] at member
            exact present member
          obtain ⟨once, among⟩ := inductionHypothesis (put entry.1 entry.2 earlier) later
          rw [keys, List.append_assoc, List.singleton_append] at among
          exact ⟨once, among⟩
  exact puts entries [] List.nodup_nil

/-- If no entry has been lost, all keys are different. -/
theorem nodup_of_length_ofList {entries : List (κ × β)}
    (count : (ofList entries).length = entries.length) : (entries.map Prod.fst).Nodup := by
  obtain ⟨nodup, among⟩ := nodup_ofList entries
  have keys : ((ofList entries).map Prod.fst).Perm (entries.map Prod.fst) := by
    refine (List.subperm_of_subset nodup among).perm_of_length_le ?_
    rw [List.length_map, List.length_map]
    exact Nat.le_of_eq count.symm
  exact keys.nodup_iff.mp nodup

theorem length_ofList_eq_iff {entries : List (κ × β)} :
    (ofList entries).length = entries.length ↔ (entries.map Prod.fst).Nodup :=
  ⟨nodup_of_length_ofList, fun nodup => congrArg List.length (ofList_of_nodup nodup)⟩

/-! ## Keys that come more than once -/

/-- A value comes under a key, and no other comes under it later. -/
inductive IsLast (key : κ) (value : β) : List (κ × β) → Prop where
  | here {rest : List (κ × β)} : key ∉ rest.map Prod.fst → IsLast key value ((key, value) :: rest)
  | later {entry : κ × β} {rest : List (κ × β)} : IsLast key value rest →
      IsLast key value (entry :: rest)

omit [BEq κ] [LawfulBEq κ] in
theorem isLast_cons_iff {key : κ} {value : β} {entry : κ × β} {rest : List (κ × β)} :
    IsLast key value (entry :: rest) ↔
      IsLast key value rest ∨ (key ∉ rest.map Prod.fst ∧ entry = (key, value)) := by
  constructor
  · intro last
    cases last with
    | here none => exact Or.inr ⟨none, rfl⟩
    | later last => exact Or.inl last
  · rintro (last | ⟨none, rfl⟩)
    · exact .later last
    · exact .here none

omit [BEq κ] [LawfulBEq κ] in
theorem IsLast.mem {key : κ} {value : β} {entries : List (κ × β)}
    (last : IsLast key value entries) : (key, value) ∈ entries := by
  induction last with
  | here _ => exact List.mem_cons_self
  | later _ inductionHypothesis => exact List.mem_cons_of_mem _ inductionHypothesis

/-- Of all that is put under a key, a map keeps the last. -/
theorem get?_ofList_eq_some_iff {key : κ} {value : β} {entries : List (κ × β)} :
    get? (ofList entries) key = some value ↔ IsLast key value entries := by
  -- The induction is on the entries still to be put, over whatever map there is so far.
  have puts : ∀ (rest earlier : List (κ × β)),
      get? (rest.foldl (fun map entry => put entry.1 entry.2 map) earlier) key = some value ↔
        IsLast key value rest ∨ (key ∉ rest.map Prod.fst ∧ get? earlier key = some value) := by
    intro rest
    induction rest with
    | nil =>
        intro earlier
        refine ⟨fun found => Or.inr ⟨List.not_mem_nil, found⟩, ?_⟩
        rintro (last | ⟨_, found⟩)
        · cases last
        · exact found
    | cons entry rest inductionHypothesis =>
        intro earlier
        rw [List.foldl_cons, inductionHypothesis, isLast_cons_iff, or_assoc, List.map_cons,
          List.mem_cons, not_or]
        refine or_congr_right ?_
        by_cases same : key = entry.1
        · subst same
          rw [get?_put_self]
          simp [Prod.ext_iff]
        · rw [get?_put_of_ne _ _ same]
          simp [Prod.ext_iff, same, Ne.symm same]
  refine (puts entries []).trans ⟨?_, Or.inl⟩
  rintro (last | ⟨_, found⟩)
  · exact last
  · cases found

theorem mem_ofList_iff {key : κ} {value : β} {entries : List (κ × β)} :
    (key, value) ∈ ofList entries ↔ IsLast key value entries := by
  rw [← get?_ofList_eq_some_iff]
  exact ⟨get?_of_mem (nodup_ofList entries).1, mem_of_get?⟩

/-! ## Texts for keys -/

/-- The map with the same entries under values. -/
def underTexts (entries : List (Text × Value)) : List (Value × Value) :=
  entries.map fun (name, value) => (.str name, value)

theorem get?_underTexts (entries : List (Text × Value)) (name : Text) :
    get? (underTexts entries) (Value.str name) = get? entries name := by
  induction entries with
  | nil => rfl
  | cons entry rest inductionHypothesis =>
      obtain ⟨key, value⟩ := entry
      have compared : (Value.str key == Value.str name) = (key == name) := rfl
      simp only [underTexts, get?, List.map_cons, List.find?_cons, compared]
        at inductionHypothesis ⊢
      cases key == name with
      | true => rfl
      | false => exact inductionHypothesis

theorem put_underTexts (name : Text) (value : Value) (entries : List (Text × Value)) :
    put (Value.str name) value (underTexts entries) = underTexts (put name value entries) := by
  induction entries with
  | nil => rfl
  | cons entry rest inductionHypothesis =>
      obtain ⟨key, old⟩ := entry
      have compared : (Value.str key == Value.str name) = (key == name) := rfl
      simp only [underTexts, put, putBy, List.map_cons, compared] at inductionHypothesis ⊢
      split
      · rfl
      · exact congrArg ((Value.str key, old) :: ·) inductionHypothesis

theorem putAll_underTexts (map entries : List (Text × Value)) :
    Value.putAll (underTexts map) (underTexts entries) =
      .ok (underTexts (entries.foldl (fun map entry => put entry.1 entry.2 map) map)) := by
  induction entries generalizing map with
  | nil => rfl
  | cons entry rest inductionHypothesis =>
      obtain ⟨name, value⟩ := entry
      rw [List.foldl_cons, ← inductionHypothesis, ← put_underTexts]
      rfl

/-- Values under different names make up a map as they are. -/
theorem putAll_zip {names : List Text} {values : List Value} (nodup : names.Nodup)
    (count : names.length = values.length) :
    Value.putAll [] ((names.map Value.str).zip values) =
      .ok ((names.map Value.str).zip values) := by
  have keys : ((names.zip values).map Prod.fst) = names := List.map_fst_zip (Nat.le_of_eq count)
  have same : (names.map Value.str).zip values = underTexts (names.zip values) := by
    rw [List.zip_map_left]
    rfl
  have kept : ofList (names.zip values) = names.zip values :=
    ofList_of_nodup (by rw [keys]; exact nodup)
  have put : Value.putAll [] (underTexts (names.zip values)) =
      .ok (underTexts (ofList (names.zip values))) := putAll_underTexts [] (names.zip values)
  rw [same, put, kept]

end Entries

end RandomSearch
