/-!
# Entries in the order of their keys' arrival

A map is kept as the list of its entries.  Putting a key that is already there replaces the value
and leaves the key in its place; a new key goes to the end.
-/

namespace RandomSearch.Entries

variable {κ β : Type}

/-- Put a value under a key, where `same` tells which keys count as one. -/
def putBy (same : κ → κ → Bool) (key : κ) (value : β) : List (κ × β) → List (κ × β)
  | [] => [(key, value)]
  | (present, old) :: rest =>
      if same present key then
        (present, value) :: rest
      else
        (present, old) :: putBy same key value rest

def ofListBy (same : κ → κ → Bool) (entries : List (κ × β)) : List (κ × β) :=
  entries.foldl (fun map entry => putBy same entry.1 entry.2 map) []

variable [BEq κ]

def put (key : κ) (value : β) (map : List (κ × β)) : List (κ × β) :=
  putBy (· == ·) key value map

def ofList (entries : List (κ × β)) : List (κ × β) :=
  ofListBy (· == ·) entries

def get? (map : List (κ × β)) (key : κ) : Option β :=
  (map.find? fun entry => entry.1 == key).map Prod.snd

/-! ## Putting and getting -/

variable [LawfulBEq κ]

theorem get?_put_self (key : κ) (value : β) (map : List (κ × β)) :
    get? (put key value map) key = some value := by
  induction map with
  | nil => simp [put, putBy, get?]
  | cons entry rest inductionHypothesis =>
      by_cases same : entry.1 = key
      · simp [put, putBy, get?, same]
      · simp only [put, get?] at inductionHypothesis
        simp [put, putBy, get?, same, inductionHypothesis]

theorem get?_put_of_ne {key other : κ} (value : β) (map : List (κ × β)) (differ : other ≠ key) :
    get? (put key value map) other = get? map other := by
  induction map with
  | nil => simp [put, putBy, get?, Ne.symm differ]
  | cons entry rest inductionHypothesis =>
      simp only [put, get?] at inductionHypothesis
      by_cases same : entry.1 = key
      · simp [put, putBy, get?, same, Ne.symm differ]
      · by_cases found : entry.1 = other
        · simp [put, putBy, get?, found, differ]
        · simp [put, putBy, get?, same, found, inductionHypothesis]

/-- The keys after a put: a new key comes last. -/
theorem map_fst_put (key : κ) (value : β) (map : List (κ × β)) :
    (put key value map).map Prod.fst =
      if key ∈ map.map Prod.fst then map.map Prod.fst else map.map Prod.fst ++ [key] := by
  induction map with
  | nil => simp [put, putBy]
  | cons entry rest inductionHypothesis =>
      simp only [put] at inductionHypothesis
      by_cases same : entry.1 = key
      · simp [put, putBy, same]
      · by_cases later : key ∈ rest.map Prod.fst
        · simp [put, putBy, same, inductionHypothesis, later, Ne.symm same]
        · simp [put, putBy, same, inductionHypothesis, later, Ne.symm same]

theorem put_of_notMem {key : κ} (value : β) {map : List (κ × β)} (new : key ∉ map.map Prod.fst) :
    put key value map = map ++ [(key, value)] := by
  induction map with
  | nil => rfl
  | cons entry rest inductionHypothesis =>
      simp only [List.map_cons, List.mem_cons, not_or] at new
      have later := inductionHypothesis new.2
      simp only [put] at later
      simp [put, putBy, Ne.symm new.1, later]

/-- Entries with different keys make up a map as they are. -/
theorem ofList_of_nodup {entries : List (κ × β)} (nodup : (entries.map Prod.fst).Nodup) :
    ofList entries = entries := by
  have puts : ∀ (rest earlier : List (κ × β)), ((earlier ++ rest).map Prod.fst).Nodup →
      rest.foldl (fun map entry => put entry.1 entry.2 map) earlier = earlier ++ rest := by
    intro rest
    induction rest with
    | nil =>
        intro earlier _
        simp
    | cons entry rest inductionHypothesis =>
        intro earlier distinct
        have new : entry.1 ∉ earlier.map Prod.fst := by
          rw [List.map_append, List.nodup_append] at distinct
          intro member
          exact distinct.2.2 entry.1 member entry.1 (by simp) rfl
        rw [List.foldl_cons, put_of_notMem entry.2 new]
        have distinctLater : ((earlier ++ [entry] ++ rest).map Prod.fst).Nodup := by
          simpa using distinct
        simpa using inductionHypothesis (earlier ++ [entry]) distinctLater
  exact puts entries [] nodup

end RandomSearch.Entries
