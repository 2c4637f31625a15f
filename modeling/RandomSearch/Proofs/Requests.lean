import RandomSearch.Proofs.Simulation
import RandomSearch.Proofs.Streams

/-!
# One seed for many searches

A sampler is asked for one search after the other, of which some fail.  What stays from one search
to the next is the seed alone.  An integer never changes.  A root counts the children it gives to
the workers of parallel searches, so that every such search starts its workers from the children
that come next, whether it returns or fails.
-/

namespace RandomSearch

variable {σ α : Type}

/-! ## Requests and replies -/

/-- A search that is asked for, with the history it is to add to. -/
inductive Request (α : Type) where
  | sequential (count : Value) (history : Option (List (Validated α)))
  | parallel (samples workers threads : Value) (dispatch : Dispatch)
      (history : Option (List (Validated α)))

/-- What is seen of a search: what it has found or how it failed, and the history. -/
structure Reply (α : Type) where
  outcome : Except Fault (Option (Validated α))
  history : Option (List (Validated α))

namespace Request

def history : Request α → Option (List (Validated α))
  | .sequential _ history => history
  | .parallel _ _ _ _ history => history

/-- How many workers are given children. -/
def taken : Request α → Nat
  | .sequential _ _ => 0
  | .parallel samples workers threads _ _ =>
      match acceptedWorkers samples workers threads with
      | .ok count => count
      | .error _ => 0

/-- How many workers have been given children by the requests before some position. -/
def takenBefore (requests : List (Request α)) (position : Nat) : Nat :=
  ((requests.take position).map taken).sum

@[simp]
theorem takenBefore_zero (requests : List (Request α)) : takenBefore requests 0 = 0 :=
  rfl

@[simp]
theorem takenBefore_cons_succ (request : Request α) (later : List (Request α)) (position : Nat) :
    takenBefore (request :: later) (position + 1) = request.taken + takenBefore later position :=
  rfl

end Request

namespace SeedSequence

/-- The children that are given to the workers of successive requests, which are numbered from the
given number on. -/
def childrenTaken (root : SeedSequence) (number : Nat) (requests : List (Request α)) :
    List (List SeedSequence) :=
  requests.mapIdx fun position request =>
    root.childrenFrom (number + Request.takenBefore requests position) request.taken

theorem childrenTaken_cons (root : SeedSequence) (number : Nat) (request : Request α)
    (later : List (Request α)) :
    root.childrenTaken number (request :: later) =
      root.childrenFrom number request.taken ::
        root.childrenTaken (number + request.taken) later := by
  unfold childrenTaken
  rw [List.mapIdx_cons]
  simp only [Request.takenBefore_zero, Request.takenBefore_cons_succ, Nat.add_zero, Nat.add_assoc]

theorem flatten_childrenTaken (root : SeedSequence) (number : Nat) (requests : List (Request α)) :
    (root.childrenTaken number requests).flatten =
      root.childrenFrom number (requests.map Request.taken).sum := by
  induction requests generalizing number with
  | nil => rfl
  | cons request later inductionHypothesis =>
      rw [childrenTaken_cons, List.flatten_cons, inductionHypothesis, ← childrenFrom_add,
        List.map_cons, List.sum_cons]

theorem nodup_spawnKey_childrenFrom (root : SeedSequence) (number count : Nat) :
    ((root.childrenFrom number count).map spawnKey).Nodup := by
  rw [map_spawnKey_childrenFrom]
  apply List.Nodup.map
  · intro left right same
    exact List.singleton_inj.mp (List.append_cancel_left same)
  · exact List.nodup_range'

end SeedSequence

namespace Sampler

def perform (sampler : Sampler σ α) : Request α → Action (Session σ α) (Option (Validated α))
  | .sequential count _ => sampler.search count
  | .parallel samples workers threads dispatch _ =>
      sampler.searchParallelOn samples workers threads dispatch

def sessionFor (request : Request α) (seed : Seed) (surroundings : σ) : Session σ α :=
  ⟨seed, none, request.history, surroundings⟩

def reply (sampler : Sampler σ α) (request : Request α) (seed : Seed) (surroundings : σ) :
    Reply α :=
  let session := sessionFor request seed surroundings
  ⟨(sampler.perform request).outcome session, ((sampler.perform request).after session).history⟩

/-- Meet one request after the other: all replies, and the seed and the surroundings that are
left. -/
def replies (sampler : Sampler σ α) : List (Request α) → Seed → σ → List (Reply α) × Seed × σ
  | [], seed, surroundings => ([], seed, surroundings)
  | request :: later, seed, surroundings =>
      let session := (sampler.perform request).after (sessionFor request seed surroundings)
      let rest := sampler.replies later session.seed session.surroundings
      (sampler.reply request seed surroundings :: rest.1, rest.2)

/-- The reply to a request where passes start from the stream of the root, if they are no workers',
and workers start from the streams of its children, which are numbered from the given number on. -/
def answer (sampler : Sampler σ α) (root : SeedSequence) (number : Nat) (surroundings : σ) :
    Request α → Reply α
  | .sequential count history =>
      let pass := Action.withFirst (Generator.ofSequence root)
        (sampler.pass count none history.isSome)
      match pass.outcome surroundings with
      | .error fault => ⟨.error fault, history⟩
      | .ok outcome => ⟨.ok outcome.best, history.map (· ++ outcome.batch)⟩
  | .parallel samples workers threads dispatch history =>
      match acceptedWorkers samples workers threads with
      | .error fault => ⟨.error fault, history⟩
      | .ok 0 => ⟨.ok none, history⟩
      | .ok count =>
          let generators := (root.childrenFrom number count).map Generator.ofSequence
          let passes := sampler.carryOutFrom dispatch samples history.isSome generators
          match passes.outcome surroundings with
          | .error fault => ⟨.error fault, history⟩
          | .ok outcomes =>
              ⟨(sampler.selectWinner outcomes).outcome surroundings,
                history.map (· ++ outcomes.flatMap Outcome.batch)⟩

end Sampler

/-! ## One request -/

namespace Seed

variable {seed : Seed} {root : SeedSequence}

theorem generator_of_toSequence (rooted : seed.toSequence = .ok root) :
    seed.generator = .ok (Generator.ofSequence root) := by
  unfold generator
  rw [rooted]
  rfl

theorem afterSpawn_numberingFrom_children (rooted : seed.toSequence = .ok root) :
    seed.afterSpawn (root.numberingFrom root.children) = seed := by
  cases seed with
  | value entropy => rfl
  | root sequence =>
      cases rooted
      rfl

end Seed

/-- What becomes of a search that leaves this seed, no stream, and the surroundings as they are. -/
def Reply.toResult (reply : Reply α) (seed : Seed) (surroundings : σ) :
    EStateM.Result Fault (Session σ α) (Option (Validated α)) :=
  match reply.outcome with
  | .ok winner => .ok winner ⟨seed, none, reply.history, surroundings⟩
  | .error fault => .error fault ⟨seed, none, reply.history, surroundings⟩

namespace Sampler

variable {sampler : Sampler σ α} {seed : Seed} {root : SeedSequence}

theorem search_eq_answer (pure : sampler.IsPure) (rooted : seed.toSequence = .ok root)
    (number : Nat) (count : Value) (history : Option (List (Validated α))) (surroundings : σ) :
    sampler.search count ⟨seed, none, history, surroundings⟩ =
      (sampler.answer root number surroundings (.sequential count history)).toResult seed
        surroundings := by
  have passes := ((pure.pass count none history.isSome).withFirst
    (Generator.ofSequence root)).apply_eq surroundings
  unfold search answer
  cases counts : count.toCount "batch size" with
  | error fault =>
      have refused : (Action.withFirst (Generator.ofSequence root)
          (sampler.pass count none history.isSome)).outcome surroundings = .error fault := by
        unfold Action.outcome Action.withFirst pass draw
        rw [counts]
        rfl
      simp only [refused]
      rfl
  | ok rounds =>
      simp only [Action.ofExcept_ok, Action.bind_apply, Action.pure_apply, Session.hasHistory,
        Session.streaming, Seed.generator_of_toSequence rooted, Session.inside, passes]
      cases (Action.withFirst (Generator.ofSequence root)
          (sampler.pass count none history.isSome)).outcome surroundings with
      | error fault => rfl
      | ok outcome => rfl

/-- The search of workers that start from the generators of the given seeds. -/
theorem searchFrom_eq (pure : sampler.IsPure) (samples : Value) (dispatch : Dispatch)
    (children : List SeedSequence) (history : Option (List (Validated α))) (surroundings : σ) :
    sampler.searchFrom samples dispatch (children.map Generator.ofSequence)
        ⟨seed, none, history, surroundings⟩ =
      Reply.toResult
        (match (sampler.carryOutFrom dispatch samples history.isSome
            (children.map Generator.ofSequence)).outcome surroundings with
          | .error fault => ⟨.error fault, history⟩
          | .ok outcomes =>
              ⟨(sampler.selectWinner outcomes).outcome surroundings,
                history.map (· ++ outcomes.flatMap Outcome.batch)⟩) seed surroundings := by
  have passes := (pure.carryOut dispatch samples history.isSome children).apply_eq surroundings
  rw [carryOut_eq_carryOutFrom] at passes
  unfold searchFrom
  simp only [Action.bind_apply, Session.hasHistory, Session.inside, passes]
  cases (sampler.carryOutFrom dispatch samples history.isSome
      (children.map Generator.ofSequence)).outcome surroundings with
  | error fault => rfl
  | ok outcomes =>
      have selects : (sampler.selectWinner outcomes).Keeps := pure.best _ none
      simp only [conclude, Action.bind_apply, Session.remember, Session.inside,
        selects.apply_eq surroundings]
      unfold Reply.toResult
      cases (sampler.selectWinner outcomes).outcome surroundings with
      | error fault => rfl
      | ok winner => rfl

theorem searchParallelOn_eq_answer (pure : sampler.IsPure) (rooted : seed.toSequence = .ok root)
    (samples workers threads : Value) (dispatch : Dispatch)
    (history : Option (List (Validated α))) (surroundings : σ) :
    let request := Request.parallel samples workers threads dispatch history
    sampler.searchParallelOn samples workers threads dispatch ⟨seed, none, history, surroundings⟩ =
      (sampler.answer root root.children surroundings request).toResult
        (seed.afterSpawn (root.numberingFrom (root.children + request.taken))) surroundings := by
  intro request
  have unchanged := Seed.afterSpawn_numberingFrom_children rooted
  simp only [request, answer, Request.taken]
  cases accepts : acceptedWorkers samples workers threads with
  | error fault =>
      have refused := sampler.searchParallelBy_of_refused accepts
        (sampler.carryOut dispatch samples) ⟨seed, none, history, surroundings⟩
      simp only [Nat.add_zero, unchanged]
      exact refused
  | ok count =>
      by_cases noWorkers : count = 0
      · have idle := sampler.searchParallelBy_of_accepted accepts
          (sampler.carryOut dispatch samples) ⟨seed, none, history, surroundings⟩
        rw [if_pos noWorkers] at idle
        subst noWorkers
        simp only [Nat.add_zero, unchanged]
        exact idle
      · obtain ⟨fewer, rfl⟩ := Nat.exists_eq_add_one_of_ne_zero noWorkers
        have spawned := Seed.spawn_of_toSequence rooted (fewer + 1)
        exact (sampler.searchParallelOn_eq_searchFrom accepts noWorkers dispatch spawned).trans
          (searchFrom_eq pure samples dispatch _ history surroundings)

/-- Pure code answers a request from the stream of its seed and from those of the children that come
next.  It leaves the surroundings as they are, and the seed after these children have been taken. -/
theorem perform_eq (pure : sampler.IsPure) (rooted : seed.toSequence = .ok root)
    (request : Request α) (surroundings : σ) :
    sampler.perform request (sessionFor request seed surroundings) =
      (sampler.answer root root.children surroundings request).toResult
        (seed.afterSpawn (root.numberingFrom (root.children + request.taken))) surroundings := by
  cases request with
  | sequential count history =>
      have searched := search_eq_answer pure rooted root.children count history surroundings
      rw [Request.taken, Nat.add_zero, Seed.afterSpawn_numberingFrom_children rooted]
      exact searched
  | parallel samples workers threads dispatch history =>
      exact searchParallelOn_eq_answer pure rooted samples workers threads dispatch history
        surroundings

theorem reply_eq_answer (pure : sampler.IsPure) (rooted : seed.toSequence = .ok root)
    (request : Request α) (surroundings : σ) :
    sampler.reply request seed surroundings =
      sampler.answer root root.children surroundings request := by
  unfold reply Action.outcome Action.after
  simp only [perform_eq pure rooted request surroundings]
  unfold Reply.toResult
  obtain ⟨outcome, history⟩ := sampler.answer root root.children surroundings request
  cases outcome with
  | error fault => rfl
  | ok winner => rfl

theorem after_perform (pure : sampler.IsPure) (rooted : seed.toSequence = .ok root)
    (request : Request α) (surroundings : σ) :
    ((sampler.perform request).after (sessionFor request seed surroundings)).seed =
        seed.afterSpawn (root.numberingFrom (root.children + request.taken)) ∧
      ((sampler.perform request).after (sessionFor request seed surroundings)).surroundings =
        surroundings := by
  unfold Action.after
  simp only [perform_eq pure rooted request surroundings]
  unfold Reply.toResult
  cases (sampler.answer root root.children surroundings request).outcome with
  | error fault => exact ⟨rfl, rfl⟩
  | ok winner => exact ⟨rfl, rfl⟩

/-! ## All requests -/

/-- An integer is left as it is by every request. -/
theorem replies_natCast (pure : sampler.IsPure) (requests : List (Request α)) (n : Nat)
    (surroundings : σ) :
    sampler.replies requests (.value (.int n)) surroundings =
      (requests.map fun request => sampler.reply request (.value (.int n)) surroundings,
        .value (.int n), surroundings) := by
  induction requests with
  | nil => rfl
  | cons request later inductionHypothesis =>
      have rooted : (Seed.value (.int n)).toSequence = .ok (.ofNat n) :=
        SeedSequence.ofEntropy_natCast n
      obtain ⟨sameSeed, sameSurroundings⟩ := after_perform pure rooted request surroundings
      simp only [replies, sameSeed, sameSurroundings, Seed.afterSpawn, inductionHypothesis,
        List.map_cons]

/-- A root gives the workers of each request the children that come next. -/
theorem replies_root (pure : sampler.IsPure) (requests : List (Request α)) (root : SeedSequence)
    (number : Nat) (surroundings : σ) :
    sampler.replies requests (.root (root.numberingFrom number)) surroundings =
      (requests.mapIdx fun position request => sampler.answer root
          (number + Request.takenBefore requests position) surroundings request,
        .root (root.numberingFrom (number + (requests.map Request.taken).sum)), surroundings) := by
  induction requests generalizing number with
  | nil => rfl
  | cons request later inductionHypothesis =>
      have rooted : (Seed.root (root.numberingFrom number)).toSequence =
          .ok (root.numberingFrom number) := rfl
      -- Neither its stream nor its children tell how many children a root has given before.
      have answered : sampler.reply request (.root (root.numberingFrom number)) surroundings =
          sampler.answer root number surroundings request :=
        reply_eq_answer pure rooted request surroundings
      have performed := after_perform pure rooted request surroundings
      have sameSeed : ((sampler.perform request).after
          (sessionFor request (.root (root.numberingFrom number)) surroundings)).seed =
            .root (root.numberingFrom (number + request.taken)) := performed.1
      rw [replies, answered, sameSeed, performed.2, inductionHypothesis, List.mapIdx_cons,
        List.map_cons, List.sum_cons]
      simp only [Request.takenBefore_zero, Request.takenBefore_cons_succ, Nat.add_zero,
        Nat.add_assoc]

/-- What a sampler of pure code carries from one request to the next, whoever carries out the tasks,
of which some may never run.  If its seed is an integer that is not negative, it carries nothing:
every request is met as by a new sampler.  If its seed is a root, every sequential search is met as
by a new sampler, and the workers of every parallel search start from the next children, as many as
workers have been accepted.  These children are numbered one after the other, so that none is given
twice and none is skipped. -/
theorem replies_carry (pure : sampler.IsPure) (requests : List (Request α)) (surroundings : σ) :
    (∀ n : Nat, sampler.replies requests (.value (.int n)) surroundings =
      (requests.map fun request => sampler.reply request (.value (.int n)) surroundings,
        .value (.int n), surroundings)) ∧
    (∀ root : SeedSequence,
      sampler.replies requests (.root root) surroundings =
          (requests.mapIdx fun position request => sampler.answer root
              (root.children + Request.takenBefore requests position) surroundings request,
            .root (root.numberingFrom
              (root.children + (requests.map Request.taken).sum)), surroundings) ∧
        (root.childrenTaken root.children requests).flatten =
            root.childrenFrom root.children (requests.map Request.taken).sum ∧
        ((root.childrenTaken root.children requests).flatten.map SeedSequence.spawnKey).Nodup) ∧
    ∀ (seed : Seed) (root : SeedSequence), seed.toSequence = .ok root →
      (∀ request, sampler.reply request seed surroundings =
        sampler.answer root root.children surroundings request) ∧
      ∀ number count history,
        sampler.answer root number surroundings (.sequential count history) =
          sampler.reply (.sequential count history) seed surroundings := by
  refine ⟨fun n => replies_natCast pure requests n surroundings, fun root => ⟨?_, ?_, ?_⟩, ?_⟩
  · exact replies_root pure requests root root.children surroundings
  · exact root.flatten_childrenTaken root.children requests
  · rw [root.flatten_childrenTaken]
    exact root.nodup_spawnKey_childrenFrom _ _
  · intro seed root rooted
    refine ⟨fun request => reply_eq_answer pure rooted request surroundings, ?_⟩
    intro number count history
    exact (reply_eq_answer pure rooted (.sequential count history) surroundings).symm

end Sampler

/-- The candidates that a reply shows, or the kind of its fault. -/
def Reply.seen (reply : Reply α) : (FaultKind ⊕ Option α) × Option (List α) :=
  (match reply.outcome with
    | .error fault => .inl fault.kind
    | .ok winner => .inr (winner.map Validated.candidate),
    reply.history.map fun batch => batch.map Validated.candidate)

namespace Sampler

/-- Five requests.  The third is refused, and the fourth fails after its workers have been given
children, so that the only worker of the last one starts from the sixth child of a root. -/
theorem replies_carry_sums :
    let requests : List (Request (List Int)) :=
      [.parallel (.int 1) (.int 2) .null (.whole .threads) (some []),
        .sequential (.int 3) (some []),
        .parallel (.int 1) (.int (-1)) .null (.whole .threads) (some []),
        .parallel (.int 1) (.int 3) .null (.whole .closed) (some []),
        .parallel (.int 2) (.int 1) .null (.inTurns [0]) (some [])]
    let root := SeedSequence.ofNat 7
    let early : List ((FaultKind ⊕ Option (List Int)) × Option (List (List Int))) :=
      [(.inr (some [3, 3]), some [[3, 3], [6, 0]]),
        (.inr (some [5, 2]), some [[9, 1], [6, 4], [5, 2]]),
        (.inl .invalidConfiguration, some []), (.inl .runtimeError, some [])]
    (requests.map fun request => (sums.answer root 0 () request).seen) =
        early ++ [(.inr (some [3, 3]), some [[3, 3], [2, -4]])] ∧
      sums.replies requests (.value (.int 7)) () =
        (requests.map fun request => sums.answer root 0 () request, .value (.int 7), ()) ∧
      (requests.mapIdx fun position request =>
          (sums.answer root (Request.takenBefore requests position) () request).seen) =
        early ++ [(.inr (some [4, 1]), some [[4, 1], [2, 2]])] ∧
      sums.replies requests (.root root) () =
        (requests.mapIdx fun position request =>
            sums.answer root (Request.takenBefore requests position) () request,
          .root (root.numberingFrom 6), ()) := by
  intro requests root early
  obtain ⟨integer, fromRoot, alone⟩ := replies_carry isPure_sums requests ()
  have rooted : (Seed.value (.int (7 : Nat))).toSequence = .ok root :=
    SeedSequence.ofEntropy_natCast 7
  have forgotten := integer 7
  simp only [(alone _ root rooted).1] at forgotten
  have carried := (fromRoot root).1
  simp only [show root.children = 0 from rfl, Nat.zero_add] at carried
  exact ⟨by decide +kernel, forgotten, by decide +kernel, carried⟩

end Sampler

end RandomSearch
