import RandomSearch.Proofs.Mixing
import RandomSearch.Proofs.Session
import RandomSearch.Sampler.Dispatch

/-!
# The streams of workers

However often a sequence is asked for children, and for however many, it numbers them one after the
other: none is skipped and none is had twice.  As long as the numbers fit into one word, no two of
their streams start alike.  Every worker of a parallel search starts from the stream of its own
child, so that no two of them ever share a stream.
-/

namespace RandomSearch

/-- Where the words of a generator start. -/
def Generator.origin (generator : Generator) : BitVec 128 × BitVec 128 :=
  (generator.state, generator.increment)

/-! ## Successive calls -/

namespace Seed

/-- The children had by successive calls, call by call, and the seed after the last of them.  A call
that is refused has none. -/
def spawnInTurn : Seed → List Int → List (List SeedSequence) × Seed
  | seed, [] => ([], seed)
  | seed, count :: later =>
      match seed.spawn count with
      | .ok (children, spawned) =>
          let rest := spawned.spawnInTurn later
          (children :: rest.1, rest.2)
      | .error _ =>
          let rest := seed.spawnInTurn later
          ([] :: rest.1, rest.2)

/-- How many children a seed has had. -/
def childCount : Seed → Nat
  | .value _ => 0
  | .root sequence => sequence.children

/-- Where the stream of a seed starts. -/
def start (seed : Seed) : Except Fault (BitVec 128 × BitVec 128) := do
  return (← seed.generator).origin

end Seed

namespace SeedSequence

/-- The children whose numbers begin with the given one. -/
def childrenFrom (sequence : SeedSequence) (number count : Nat) : List SeedSequence :=
  (List.range' number count).map sequence.child

/-- A sequence whose next child has the given number. -/
def numberingFrom (sequence : SeedSequence) (number : Nat) : SeedSequence :=
  { sequence with children := number }

/-- Every sequence has a stream, and no two of the streams start alike. -/
def StartApart (sequences : List SeedSequence) : Prop :=
  ∃ starts, sequences.mapM (fun sequence => (Seed.root sequence).start) = .ok starts ∧ starts.Nodup

theorem spawn_eq (sequence : SeedSequence) (count : Nat) :
    sequence.spawn count =
      (sequence.childrenFrom sequence.children count,
        sequence.numberingFrom (sequence.children + count)) := by
  have numbers : List.range' sequence.children count =
      (List.range count).map fun offset => sequence.children + offset :=
    List.range'_eq_map_range
  rw [childrenFrom, numbers, List.map_map]
  rfl

theorem childrenFrom_add (sequence : SeedSequence) (number first second : Nat) :
    sequence.childrenFrom number (first + second) =
      sequence.childrenFrom number first ++ sequence.childrenFrom (number + first) second := by
  rw [childrenFrom, ← List.range'_append_1, List.map_append]
  rfl

theorem map_spawnKey_childrenFrom (sequence : SeedSequence) (number count : Nat) :
    (sequence.childrenFrom number count).map spawnKey =
      (List.range' number count).map fun place => sequence.spawnKey ++ [place] := by
  rw [childrenFrom, List.map_map]
  rfl

theorem startApart_iff {sequences : List SeedSequence} :
    StartApart sequences ↔
      ((sequences.map Generator.ofSequence).map Generator.origin).Nodup := by
  have starts : sequences.mapM (fun sequence => (Seed.root sequence).start) =
      .ok ((sequences.map Generator.ofSequence).map Generator.origin) := by
    rw [List.map_map]
    exact List.mapM_pure
  unfold StartApart
  rw [starts]
  constructor
  · rintro ⟨_, same, nodup⟩
    cases same
    exact nodup
  · intro nodup
    exact ⟨_, rfl, nodup⟩

theorem startApart_childrenFrom (sequence : SeedSequence) {number count : Nat}
    (small : number + count ≤ 0x100000000) :
    StartApart (sequence.childrenFrom number count) := by
  rw [startApart_iff, childrenFrom, List.map_map, List.map_map]
  apply List.Nodup.map_on
  · intro left leftMember right rightMember same
    have leftSmall : left < 0x100000000 := by
      rw [List.mem_range'_1] at leftMember
      omega
    have rightSmall : right < 0x100000000 := by
      rw [List.mem_range'_1] at rightMember
      omega
    have states := congrArg Prod.fst same
    have increments := congrArg Prod.snd same
    exact child_injective leftSmall rightSmall states increments
  · exact List.nodup_range'

end SeedSequence

namespace Seed

theorem exists_spawn_negSucc_eq_error (seed : Seed) (count : Nat) :
    ∃ fault, seed.spawn (.negSucc count) = .error fault :=
  ⟨_, if_pos (Int.negSucc_lt_zero count)⟩

/-- However many calls there are, their children are numbered one after the other. -/
theorem flatten_spawnInTurn (sequence : SeedSequence) (counts : List Int) :
    ((Seed.root sequence).spawnInTurn counts).1.flatten =
      sequence.childrenFrom sequence.children (counts.map Int.toNat).sum := by
  induction counts generalizing sequence with
  | nil => rfl
  | cons count later inductionHypothesis =>
      cases count with
      | ofNat count =>
          have spawned := spawn_root sequence count
          have rest := inductionHypothesis (sequence.spawn count).2
          rw [SeedSequence.spawn_eq] at spawned rest
          simp only [spawnInTurn, Int.ofNat_eq_natCast, spawned, List.flatten_cons, rest,
            List.map_cons, Int.toNat_natCast, List.sum_cons, SeedSequence.childrenFrom_add]
          rfl
      | negSucc count =>
          obtain ⟨fault, refused⟩ := exists_spawn_negSucc_eq_error (.root sequence) count
          simp only [spawnInTurn, refused, List.flatten_cons, List.nil_append,
            inductionHypothesis sequence, List.map_cons, Int.toNat_negSucc, List.sum_cons,
            Nat.zero_add]

theorem map_length_spawnInTurn (sequence : SeedSequence) (counts : List Int) :
    ((Seed.root sequence).spawnInTurn counts).1.map List.length = counts.map Int.toNat := by
  induction counts generalizing sequence with
  | nil => rfl
  | cons count later inductionHypothesis =>
      cases count with
      | ofNat count =>
          have spawned := spawn_root sequence count
          simp only [spawnInTurn, Int.ofNat_eq_natCast, spawned, List.map_cons,
            SeedSequence.length_spawn, inductionHypothesis, Int.toNat_natCast]
      | negSucc count =>
          obtain ⟨fault, refused⟩ := exists_spawn_negSucc_eq_error (.root sequence) count
          simp only [spawnInTurn, refused, List.map_cons, List.length_nil, inductionHypothesis,
            Int.toNat_negSucc]

theorem children_of_ofEntropy {entropy : Value} {key : List Nat} {sequence : SeedSequence}
    (made : SeedSequence.ofEntropy entropy key = .ok sequence) : sequence.children = 0 := by
  have fromWords : ∀ given : Except Fault (List UInt32),
      (do return ⟨entropy, ← given, key, 0⟩ : Except Fault SeedSequence) = .ok sequence →
        sequence.children = 0 := by
    intro given read
    obtain ⟨words, _, same⟩ := except_bind_eq_ok_iff.mp read
    cases same
    rfl
  cases entropy with
  | null =>
      cases made
      rfl
  | bool value => exact fromWords _ made
  | int value => exact fromWords _ made
  | list items => exact fromWords _ made
  | tuple items => exact fromWords _ made
  | float value => cases made
  | str value => cases made
  | map entries => cases made

theorem spawn_of_toSequence {seed : Seed} {sequence : SeedSequence}
    (made : seed.toSequence = .ok sequence) (count : Nat) :
    seed.spawn count = .ok (sequence.childrenFrom sequence.children count,
      seed.afterSpawn (sequence.numberingFrom (sequence.children + count))) := by
  unfold spawn
  rw [if_neg (by omega), made]
  change Except.ok ((sequence.spawn count).1, seed.afterSpawn (sequence.spawn count).2) = _
  rw [SeedSequence.spawn_eq]

/-- The children of a seed are those of its sequence that come next. -/
theorem exists_of_spawn {seed later : Seed} {count : Nat} {children : List SeedSequence}
    (spawned : seed.spawn count = .ok (children, later)) :
    ∃ sequence, seed.toSequence = .ok sequence ∧
      children = sequence.childrenFrom sequence.children count ∧
        later = seed.afterSpawn (sequence.numberingFrom (sequence.children + count)) := by
  have taken := spawned
  unfold spawn at taken
  rw [if_neg (by omega)] at taken
  obtain ⟨sequence, made, _⟩ := except_bind_eq_ok_iff.mp taken
  rw [spawn_of_toSequence made] at spawned
  cases spawned
  exact ⟨sequence, made, rfl, rfl⟩

theorem length_of_spawn {seed later : Seed} {count : Nat} {children : List SeedSequence}
    (spawned : seed.spawn count = .ok (children, later)) : children.length = count := by
  obtain ⟨_, _, rfl, _⟩ := exists_of_spawn spawned
  rw [SeedSequence.childrenFrom, List.length_map, List.length_range']

/-- The children that a seed gives to workers start apart, as long as their numbers fit into one
word. -/
theorem startApart_of_spawn {seed later : Seed} {workers : Nat} {children : List SeedSequence}
    (spawned : seed.spawn workers = .ok (children, later))
    (small : seed.childCount + workers ≤ 0x100000000) : SeedSequence.StartApart children := by
  obtain ⟨sequence, made, rfl, _⟩ := exists_of_spawn spawned
  have count : sequence.children = seed.childCount := by
    cases seed with
    | value entropy => exact children_of_ofEntropy made
    | root present =>
        cases made
        rfl
  apply SeedSequence.startApart_childrenFrom
  rw [count]
  exact small

end Seed

/-! ## Workers -/

namespace Executor

variable {σ ι κ β : Type}

theorem submitFrom_map (executor : Executor) (task : Nat → κ → Action σ β) (item : ι → κ)
    (position : Nat) (items : List ι) :
    executor.submitFrom task position (items.map item) =
      executor.submitFrom (fun place given => task place (item given)) position items := by
  induction items generalizing position with
  | nil => rfl
  | cons first rest inductionHypothesis =>
      rw [List.map_cons, submitFrom, submitFrom, inductionHypothesis]

theorem finishFrom_map (task : Nat → κ → Action σ β) (item : ι → κ) (position : Nat)
    (items : List ι) (futures : List (Future β)) :
    finishFrom task position (items.map item) futures =
      finishFrom (fun place given => task place (item given)) position items futures := by
  induction items generalizing position futures with
  | nil => rfl
  | cons first rest inductionHypothesis =>
      cases futures with
      | nil => rfl
      | cons future others => rw [List.map_cons, finishFrom, finishFrom, inductionHypothesis]

theorem runAll_map (executor : Executor) (task : Nat → κ → Action σ β) (item : ι → κ)
    (items : List ι) :
    executor.runAll task (items.map item) =
      executor.runAll (fun place given => task place (item given)) items := by
  unfold runAll
  rw [submitFrom_map]
  simp only [finishFrom_map]

end Executor

/-- The stage of a worker that starts from a generator. -/
def Stage.startFrom {α : Type} (samples : Value) (generator : Generator) : Stage α :=
  match samples.toCount "batch size" with
  | .ok count => .drawing count generator []
  | .error fault => .ended (.error fault)

namespace Sampler

variable {σ α : Type}

/-- The pass of a worker that starts from a generator. -/
def passFrom (sampler : Sampler σ α) (samples : Value) (keep : Bool) (worker : Nat)
    (generator : Generator) : Action σ (Outcome α) :=
  Action.withFirst generator (sampler.pass samples (some worker) keep)

/-- Carry out the passes of workers that start from these generators, one from each. -/
def carryOutFrom (sampler : Sampler σ α) (dispatch : Dispatch) (samples : Value) (keep : Bool)
    (generators : List Generator) : Action σ (List (Outcome α)) :=
  match dispatch with
  | .whole executor => executor.runAll (sampler.passFrom samples keep) generators
  | .inTurns turns =>
      (sampler.passWork keep).runInTurns turns
        (generators.zipIdx.map fun (generator, worker) => (worker, .startFrom samples generator))

/-- Every worker starts from the generator of its seed, whether its task runs at one go or in turns
with the others. -/
theorem carryOut_eq_carryOutFrom (sampler : Sampler σ α) (dispatch : Dispatch) (samples : Value)
    (keep : Bool) (seeds : List SeedSequence) :
    sampler.carryOut dispatch samples keep seeds =
      sampler.carryOutFrom dispatch samples keep (seeds.map Generator.ofSequence) := by
  cases dispatch with
  | whole executor =>
      exact (executor.runAll_map (sampler.passFrom samples keep) Generator.ofSequence seeds).symm
  | inTurns turns =>
      unfold carryOut carryOutFrom
      rw [List.zipIdx_map, List.map_map]
      rfl

/-- Search with workers that start from these generators. -/
def searchFrom (sampler : Sampler σ α) (samples : Value) (dispatch : Dispatch)
    (generators : List Generator) : Action (Session σ α) (Option (Validated α)) := do
  let keep ← Session.hasHistory
  let outcomes ← Session.inside (sampler.carryOutFrom dispatch samples keep generators)
  sampler.conclude (some outcomes)

/-- A parallel search takes one child for each worker, and comes down to the search of workers that
start from the generators of these children. -/
theorem searchParallelOn_eq_searchFrom (sampler : Sampler σ α) {samples workers threads : Value}
    {count : Nat} (accepts : acceptedWorkers samples workers threads = .ok count)
    (positive : count ≠ 0) (dispatch : Dispatch) {session : Session σ α} {later : Seed}
    {children : List SeedSequence} (spawned : session.seed.spawn count = .ok (children, later)) :
    sampler.searchParallelOn samples workers threads dispatch session =
      sampler.searchFrom samples dispatch (children.map Generator.ofSequence)
        { session with seed := later } := by
  unfold searchParallelOn
  rw [sampler.searchParallelBy_of_accepted accepts, if_neg positive]
  simp only [spawned, carryOut_eq_carryOutFrom, searchFrom, Action.bind_apply, Session.hasHistory,
    Session.inside]
  cases sampler.carryOutFrom dispatch samples session.history.isSome
      (children.map Generator.ofSequence) session.surroundings with
  | error fault after => rfl
  | ok outcomes after => rfl

/-- A root numbers its children one after the other, however many calls there are.  As long as the
numbers fit into one word, no two of their streams start alike.  In particular, each worker of a
parallel search starts from the generator of its own child, and no two of these are alike. -/
theorem spawnInTurn_startApart (root : SeedSequence) (counts : List Int) :
    ((Seed.root root).spawnInTurn counts).1.map List.length = counts.map Int.toNat ∧
      ((Seed.root root).spawnInTurn counts).1.flatten.map SeedSequence.spawnKey =
        (List.range' root.children (counts.map Int.toNat).sum).map
          (fun number => root.spawnKey ++ [number]) ∧
      (root.children + (counts.map Int.toNat).sum ≤ 0x100000000 →
        SeedSequence.StartApart ((Seed.root root).spawnInTurn counts).1.flatten) ∧
      ∀ (sampler : Sampler σ α) (samples workers threads : Value) (count : Nat)
        (dispatch : Dispatch) (session : Session σ α) (children : List SeedSequence)
        (later : Seed), acceptedWorkers samples workers threads = .ok count → count ≠ 0 →
          session.seed.spawn count = .ok (children, later) →
          session.seed.childCount + count ≤ 0x100000000 →
          ∃ generators : List Generator, generators = children.map Generator.ofSequence ∧
            generators.length = count ∧ (generators.map Generator.origin).Nodup ∧
            sampler.searchParallelOn samples workers threads dispatch session =
              sampler.searchFrom samples dispatch generators { session with seed := later } := by
  refine ⟨Seed.map_length_spawnInTurn root counts, ?_, ?_, ?_⟩
  · rw [Seed.flatten_spawnInTurn, SeedSequence.map_spawnKey_childrenFrom]
  · intro small
    rw [Seed.flatten_spawnInTurn]
    exact root.startApart_childrenFrom small
  · intro sampler samples workers threads count dispatch session children later accepts positive
      spawned small
    refine ⟨_, rfl, ?_, ?_,
      sampler.searchParallelOn_eq_searchFrom accepts positive dispatch spawned⟩
    · rw [List.length_map, Seed.length_of_spawn spawned]
    · exact SeedSequence.startApart_iff.mp (Seed.startApart_of_spawn spawned small)

/-- Three workers that draw one point each, from the first children of a root and from the next
ones. -/
theorem spawnInTurn_startApart_seven :
    let root := SeedSequence.ofNat 7
    let session (number : Nat) : Session Unit (List Int) :=
      ⟨.root (root.numberingFrom number), none, some [], ()⟩
    let generators (number : Nat) := (root.childrenFrom number 3).map Generator.ofSequence
    let search (number : Nat) (dispatch : Dispatch) :=
      sums.searchParallelOn (.int 1) (.int 3) .null dispatch (session number)
    (((Seed.root root).spawnInTurn [3, -1, 3]).1.flatten.map SeedSequence.spawnKey =
        [[0], [1], [2], [3], [4], [5]] ∧
      SeedSequence.StartApart ((Seed.root root).spawnInTurn [3, -1, 3]).1.flatten) ∧
      ((generators 0).map Generator.origin).Nodup ∧
        search 0 (.whole .threads) =
          sums.searchFrom (.int 1) (.whole .threads) (generators 0) (session 3) ∧
        Session.seen (search 0 (.whole .threads)) =
          some (some [3, 3], some [[3, 3], [6, 0], [3, 1]]) ∧
      ((generators 3).map Generator.origin).Nodup ∧
        search 3 (.inTurns [2, 0]) =
          sums.searchFrom (.int 1) (.inTurns [2, 0]) (generators 3) (session 6) ∧
        Session.seen (search 3 (.inTurns [2, 0])) =
          some (some [4, 4], some [[4, 4], [8, 3], [4, 1]]) := by
  intro root session generators search
  obtain ⟨_, keys, apart, searches⟩ := @spawnInTurn_startApart Unit (List Int) root [3, -1, 3]
  have spawned (number : Nat) : (session number).seed.spawn (3 : Nat) =
      .ok (root.childrenFrom number 3, (session (number + 3)).seed) :=
    @Seed.spawn_of_toSequence _ (root.numberingFrom number) rfl 3
  obtain ⟨_, rfl, _, firstApart, firstRan⟩ := searches sums (.int 1) (.int 3) .null 3
    (.whole .threads) (session 0) _ _ rfl (by decide) (spawned 0) (by decide)
  obtain ⟨_, rfl, _, secondApart, secondRan⟩ := searches sums (.int 1) (.int 3) .null 3
    (.inTurns [2, 0]) (session 3) _ _ rfl (by decide) (spawned 3) (by decide)
  exact ⟨⟨keys, apart (by decide)⟩, firstApart, firstRan, by decide +kernel, secondApart,
    secondRan, by decide +kernel⟩

end Sampler

end RandomSearch
