import Mathlib.Data.List.Induction
import RandomSearch.Proofs.Await

/-!
# Whoever submits tasks waits for them

Whatever happens while tasks are submitted and awaited, it is over only after every task that was
submitted has come to its end.  If a task was refused, that refusal is what comes of the whole.
What an executor does with its tasks is one of the ways in which all this can happen.
-/

namespace RandomSearch

variable {σ ι β : Type}

@[simp]
theorem Progress.isSettled_toFuture (progress : Progress β) :
    progress.toFuture.isSettled = progress.isSettled := by
  cases progress with
  | pending => rfl
  | running => rfl
  | done result => exact Future.isSettled_ofResult result
  | cancelled => rfl

@[simp]
theorem Progress.toFuture_ofFuture (future : Future β) : (ofFuture future).toFuture = future := by
  cases future with
  | waiting => rfl
  | returned result => rfl
  | failed fault => rfl
  | cancelled => rfl

namespace Crew

/-! ## No future is left -/

/-- All tasks that have been submitted have come to an end. -/
def AllSettled (crew : Crew β) : Prop :=
  ∀ future < crew.submitted, (crew.wait.futures future).isSettled = true

/-- What is waited for, and what has been waited for. -/
def Watches (crew : Crew β) : Control → Prop
  | .submitting | .cancelling _ _ => crew.wait.countdown.watched = []
  | .awaiting _ => crew.wait.countdown.watched = List.range crew.submitted
  | .left _ => crew.AllSettled

/-- A crew that waits for all that was submitted, and that stops submitting early only after a
refusal. -/
structure IsSound (crew : Crew β) : Prop where
  wait : crew.wait.IsSound
  watches : crew.Watches crew.control
  submitted : crew.submitted ≤ crew.workers
  complete : crew.control.isSubmitting = false → crew.control.refusal = none →
    crew.submitted = crew.workers

theorem isSound_start (workers : Nat) : (start workers : Crew β).IsSound where
  wait := Wait.isSound_begin _ _
  watches := rfl
  submitted := Nat.zero_le workers
  complete := nofun

theorem control_of_isSubmitting {control : Control} (submitting : control.isSubmitting = true) :
    control = .submitting := by
  cases control with
  | submitting => rfl
  | cancelling next refusal => cases submitting
  | awaiting refusal => cases submitting
  | left refusal => cases submitting

theorem IsSound.await {crew : Crew β} (sound : crew.IsSound) {refusal : Option Fault}
    (complete : refusal = none → crew.submitted = crew.workers) :
    (crew.await refusal).IsSound where
  wait := Wait.isSound_begin _ _
  watches := rfl
  submitted := sound.submitted
  complete _ accepted := complete accepted

theorem IsSound.change {crew : Crew β} (sound : crew.IsSound) (future : Nat) (change : Change β) :
    (crew.step (.change future change)).IsSound where
  wait := sound.wait.change future change
  watches := by
    have watches := sound.watches
    simp only [step]
    cases control : crew.control with
    | submitting =>
        rw [control] at watches
        exact (crew.wait.watched_change future change).trans watches
    | cancelling next refusal =>
        rw [control] at watches
        exact (crew.wait.watched_change future change).trans watches
    | awaiting refusal =>
        rw [control] at watches
        exact (crew.wait.watched_change future change).trans watches
    | left refusal =>
        rw [control] at watches
        intro other submitted
        have settled := watches other submitted
        simp only
        rw [Wait.futures_change_of_isSettled settled, settled]
  submitted := sound.submitted
  complete := sound.complete

theorem IsSound.submit {crew : Crew β} (sound : crew.IsSound) (progress : Progress β) :
    (crew.step (.submit progress)).IsSound := by
  rw [step]
  split
  · next can =>
      have submitting := control_of_isSubmitting can.1
      have watches := sound.watches
      rw [submitting] at watches
      refine ⟨sound.wait.ofNothingWatched watches _, ?_, can.2, ?_⟩
      · rw [submitting]
        exact watches
      · rw [submitting]
        nofun
  · exact sound

theorem IsSound.refuse {crew : Crew β} (sound : crew.IsSound) (fault : Fault) :
    (crew.step (.refuse fault)).IsSound := by
  rw [step]
  split
  · next can =>
      have watches := sound.watches
      rw [control_of_isSubmitting can.1] at watches
      exact ⟨sound.wait, watches, sound.submitted, nofun⟩
  · exact sound

theorem IsSound.proceed {crew : Crew β} (sound : crew.IsSound) : crew.proceed.IsSound := by
  have watches := sound.watches
  cases control : crew.control with
  | submitting =>
      simp only [Crew.proceed, control]
      split
      · next all => exact sound.await fun _ => all
      · exact sound
  | cancelling next refusal =>
      simp only [Crew.proceed, control]
      split
      · rw [control] at watches
        exact ⟨sound.wait.change next .cancel,
          (crew.wait.watched_change next .cancel).trans watches, sound.submitted, nofun⟩
      · exact sound.await nofun
  | awaiting refusal =>
      have complete := sound.complete
      rw [control] at watches complete
      simp only [Crew.proceed, control]
      split
      · next passes =>
          refine ⟨sound.wait, ?_, sound.submitted, complete⟩
          intro future submitted
          apply sound.wait.isSettled_of_passes passes
          rw [watches]
          exact List.mem_range.mpr submitted
      · exact ⟨sound.wait.register, crew.wait.watched_register.trans watches, sound.submitted,
          complete⟩
  | left refusal =>
      simp only [Crew.proceed, control]
      exact sound

theorem IsSound.step {crew : Crew β} (sound : crew.IsSound) (event : CrewEvent β) :
    (crew.step event).IsSound := by
  cases event with
  | change future change => exact sound.change future change
  | submit progress => exact sound.submit progress
  | refuse fault => exact sound.refuse fault
  | proceed => exact sound.proceed

theorem IsSound.run {crew : Crew β} (sound : crew.IsSound) (events : List (CrewEvent β)) :
    (crew.run events).IsSound := by
  induction events generalizing crew with
  | nil => exact sound
  | cons event later inductionHypothesis => exact inductionHypothesis (sound.step event)

theorem workers_step (crew : Crew β) (event : CrewEvent β) :
    (crew.step event).workers = crew.workers := by
  cases event with
  | change future change => rfl
  | submit progress =>
      rw [step]
      split
      · rfl
      · rfl
  | refuse fault =>
      rw [step]
      split
      · rfl
      · rfl
  | proceed =>
      rw [step, proceed]
      split
      · split
        · rfl
        · rfl
      · split
        · rfl
        · rfl
      · split
        · rfl
        · rfl
      · rfl

theorem workers_run (crew : Crew β) (events : List (CrewEvent β)) :
    (crew.run events).workers = crew.workers := by
  induction events generalizing crew with
  | nil => rfl
  | cons event later inductionHypothesis =>
      exact (inductionHypothesis (crew.step event)).trans (crew.workers_step event)

/-- Once all is over, every submitted task has come to its end, and what has come of the whole is
the refusal or else the collected results. -/
theorem IsSound.of_outcome {crew : Crew β} (sound : crew.IsSound) {result : Except Fault (List β)}
    (ended : crew.outcome = some result) :
    crew.AllSettled ∧ (∀ fault, crew.control.refusal = some fault → result = .error fault) ∧
      (crew.control.refusal = none →
        crew.submitted = crew.workers ∧ result = Future.collect crew.futures) := by
  have watches := sound.watches
  have complete := sound.complete
  cases control : crew.control with
  | submitting => simp only [outcome, control, reduceCtorEq] at ended
  | cancelling next refusal => simp only [outcome, control, reduceCtorEq] at ended
  | awaiting refusal => simp only [outcome, control, reduceCtorEq] at ended
  | left refusal =>
      rw [control] at watches complete
      refine ⟨watches, ?_⟩
      cases refusal with
      | none =>
          simp only [outcome, control, Option.some.injEq] at ended
          exact ⟨nofun, fun accepted => ⟨complete rfl accepted, ended.symm⟩⟩
      | some fault =>
          simp only [outcome, control, Option.some.injEq] at ended
          constructor
          · rintro other ⟨⟩
            exact ended.symm
          · nofun

/-! ## Refusals -/

theorem refusal_proceed (crew : Crew β) :
    crew.proceed.control.refusal = crew.control.refusal ∧
      crew.proceed.submitted = crew.submitted := by
  cases control : crew.control with
  | submitting =>
      simp only [proceed, control]
      split
      · exact ⟨rfl, rfl⟩
      · exact ⟨congrArg Control.refusal control, rfl⟩
  | cancelling next refusal =>
      simp only [proceed, control]
      split
      · exact ⟨rfl, rfl⟩
      · exact ⟨rfl, rfl⟩
  | awaiting refusal =>
      simp only [proceed, control]
      split
      · exact ⟨rfl, rfl⟩
      · exact ⟨rfl, rfl⟩
  | left refusal =>
      simp only [proceed, control]
      exact ⟨trivial, trivial⟩

/-- A refusal is met with when a task is refused, and it stays. -/
theorem refusal_step_iff (crew : Crew β) (event : CrewEvent β) (position : Nat) (fault : Fault) :
    (crew.step event).control.refusal = some fault ∧ (crew.step event).submitted = position ↔
      (crew.control.refusal = some fault ∧ crew.submitted = position) ∨
        (event = .refuse fault ∧ crew.CanSubmit ∧ crew.submitted = position) := by
  cases event with
  | change future change => simp [step]
  | submit progress =>
      by_cases can : crew.CanSubmit
      · have none : crew.control.refusal = none := by
          rw [control_of_isSubmitting can.1]
          rfl
        simp [step, can, none]
      · simp [step, can]
  | refuse other =>
      by_cases can : crew.CanSubmit
      · have none : crew.control.refusal = none := by
          rw [control_of_isSubmitting can.1]
          rfl
        have refused : (Control.cancelling 0 other).refusal = some other := rfl
        simp [step, can, none, refused]
      · simp [step, can]
  | proceed =>
      obtain ⟨refusal, submitted⟩ := crew.refusal_proceed
      simp [step, refusal, submitted]

theorem run_cons (crew : Crew β) (event : CrewEvent β) (later : List (CrewEvent β)) :
    crew.run (event :: later) = (crew.step event).run later :=
  rfl

theorem run_proceed (crew : Crew β) (later : List (CrewEvent β)) :
    crew.run (.proceed :: later) = crew.proceed.run later :=
  rfl

theorem run_append (crew : Crew β) (earlier later : List (CrewEvent β)) :
    crew.run (earlier ++ later) = (crew.run earlier).run later :=
  List.foldl_append

theorem refuses_concat_iff (workers : Nat) (events : List (CrewEvent β)) (event : CrewEvent β)
    (position : Nat) (fault : Fault) :
    Refuses workers (events ++ [event]) position fault ↔
      Refuses workers events position fault ∨
        (event = .refuse fault ∧ ((start workers).run events).CanSubmit ∧
          ((start workers).run events).submitted = position) := by
  constructor
  · rintro ⟨earlier, later, same, refused⟩
    rcases List.eq_nil_or_concat later with rfl | ⟨others, last, rfl⟩
    · obtain ⟨rfl, rfl⟩ := List.append_inj' same rfl |>.imp_right List.singleton_inj.mp
      exact Or.inr ⟨rfl, refused⟩
    · have split : events ++ [event] = (earlier ++ .refuse fault :: others) ++ [last] := by
        rw [same, List.concat_eq_append, List.append_assoc, List.cons_append]
      obtain ⟨rfl, -⟩ := List.append_inj' split rfl
      exact Or.inl ⟨earlier, others, rfl, refused⟩
  · rintro (⟨earlier, later, rfl, refused⟩ | ⟨rfl, refused⟩)
    · refine ⟨earlier, later ++ [event], ?_, refused⟩
      rw [List.append_assoc, List.cons_append]
    · exact ⟨events, [], rfl, refused⟩

/-- One has met with a refusal exactly if a task was refused. -/
theorem refusal_run_iff (workers : Nat) (events : List (CrewEvent β)) (position : Nat)
    (fault : Fault) :
    ((start workers).run events).control.refusal = some fault ∧
        ((start workers).run events).submitted = position ↔
      Refuses workers events position fault := by
  induction events using List.reverseRecOn with
  | nil =>
      constructor
      · rintro ⟨refused, _⟩
        cases refused
      · rintro ⟨earlier, later, same, _⟩
        cases earlier with
        | nil => cases same
        | cons first rest => cases same
  | append_singleton events event inductionHypothesis =>
      rw [run_append, refuses_concat_iff, ← inductionHypothesis]
      exact refusal_step_iff _ event position fault

/-! ## Coming to an end -/

@[simp]
theorem length_futures (crew : Crew β) : crew.futures.length = crew.submitted := by
  rw [futures, List.length_map, List.length_range]

theorem forall_mem_futures_iff {crew : Crew β} :
    (∀ future ∈ crew.futures, future.isSettled = true) ↔ crew.AllSettled := by
  simp only [futures, List.forall_mem_map, List.mem_range, Progress.isSettled_toFuture, AllSettled]

theorem proceed_of_passes {crew : Crew β} {refusal : Option Fault}
    (awaiting : crew.control = .awaiting refusal) (passes : crew.wait.countdown.Passes) :
    crew.proceed = { crew with control := .left refusal } := by
  simp only [proceed, awaiting, if_pos passes]

theorem proceed_of_not_passes {crew : Crew β} {refusal : Option Fault}
    (awaiting : crew.control = .awaiting refusal) (waits : ¬ crew.wait.countdown.Passes) :
    crew.proceed = { crew with wait := crew.wait.register } := by
  simp only [proceed, awaiting, if_neg waits]

/-- If all submitted tasks have come to an end, one waits no longer than until all have their
callbacks. -/
theorem IsSound.passes_of_awaiting {crew : Crew β} (sound : crew.IsSound)
    {refusal : Option Fault} (awaiting : crew.control = .awaiting refusal)
    (settled : crew.AllSettled)
    (registered : crew.wait.countdown.registered = crew.wait.countdown.watched.length) :
    crew.wait.countdown.Passes := by
  have watches := sound.watches
  rw [awaiting] at watches
  by_cases nothing : crew.wait.countdown.watched = []
  · exact Or.inl nothing
  · refine Or.inr ⟨registered, sound.wait.finished_of_isSettled nothing registered ?_⟩
    intro future member
    rw [watches, List.mem_range] at member
    exact settled future member

/-- Once all submitted tasks have come to an end, whoever waits for them needs only go on. -/
theorem IsSound.exists_left_of_awaiting {crew : Crew β} (sound : crew.IsSound)
    {refusal : Option Fault} (awaiting : crew.control = .awaiting refusal)
    (settled : crew.AllSettled) :
    ∃ events, (crew.run events).control = .left refusal ∧
      (crew.run events).futures = crew.futures := by
  -- The induction is on the callbacks that have not been added yet.
  induction missing : crew.wait.countdown.watched.length - crew.wait.countdown.registered
    generalizing crew with
  | zero =>
      have registered : crew.wait.countdown.registered = crew.wait.countdown.watched.length :=
        Nat.le_antisymm sound.wait.registered (Nat.le_of_sub_eq_zero missing)
      have passes := sound.passes_of_awaiting awaiting settled registered
      refine ⟨[.proceed], ?_⟩
      rw [run_proceed, proceed_of_passes awaiting passes]
      exact ⟨rfl, rfl⟩
  | succ steps inductionHypothesis =>
      by_cases passes : crew.wait.countdown.Passes
      · refine ⟨[.proceed], ?_⟩
        rw [run_proceed, proceed_of_passes awaiting passes]
        exact ⟨rfl, rfl⟩
      · have moved := proceed_of_not_passes awaiting passes
        have soundNext := sound.proceed
        rw [moved] at soundNext
        have more : crew.wait.countdown.registered < crew.wait.countdown.watched.length := by
          omega
        have nextSettled : AllSettled { crew with wait := crew.wait.register } := by
          intro future submitted
          rw [Wait.futures_register]
          exact settled future submitted
        have fewer : crew.wait.register.countdown.watched.length -
            crew.wait.register.countdown.registered = steps := by
          rw [Wait.watched_register, Wait.registered_register more]
          omega
        obtain ⟨events, left, futures⟩ :=
          inductionHypothesis soundNext awaiting nextSettled fewer
        refine ⟨.proceed :: events, ?_⟩
        rw [run_proceed, moved]
        refine ⟨left, futures.trans ?_⟩
        simp only [Crew.futures, Wait.futures_register]

/-- None of the submitted tasks runs at the moment. -/
def Idle (crew : Crew β) : Prop :=
  ∀ future < crew.submitted, crew.wait.futures future ≠ .running

/-- After a refusal all tasks that do not run can be cancelled. -/
theorem IsSound.exists_left_of_cancelling {crew : Crew β} (sound : crew.IsSound) {next : Nat}
    {fault : Fault} (cancelling : crew.control = .cancelling next fault)
    (earlier : ∀ future < next, (crew.wait.futures future).isSettled = true) (idle : crew.Idle) :
    ∃ events, (crew.run events).control = .left (some fault) ∧
      (crew.run events).submitted = crew.submitted := by
  -- The induction is on the tasks that have not been cancelled yet.
  induction missing : crew.submitted - next generalizing crew next with
  | zero =>
      have all : ¬ next < crew.submitted := by omega
      have moved : crew.proceed = crew.await (some fault) := by
        simp only [Crew.proceed, cancelling, if_neg all]
      have settled : (crew.await (some fault)).AllSettled := by
        intro future submitted
        exact earlier future (Nat.lt_of_lt_of_le submitted (Nat.not_lt.mp all))
      have awaits : (crew.await (some fault)).IsSound := sound.await nofun
      obtain ⟨events, left, futures⟩ := awaits.exists_left_of_awaiting rfl settled
      refine ⟨.proceed :: events, ?_⟩
      rw [run_proceed, moved]
      refine ⟨left, ?_⟩
      have count := congrArg List.length futures
      rw [length_futures, length_futures] at count
      exact count
  | succ steps inductionHypothesis =>
      have more : next < crew.submitted := by omega
      have moved : crew.proceed = { crew with
          control := .cancelling (next + 1) fault
          wait := crew.wait.change next .cancel } := by
        simp only [Crew.proceed, cancelling, if_pos more]
      have soundNext := sound.proceed
      rw [moved] at soundNext
      have nextEarlier : ∀ future < next + 1,
          ((crew.wait.change next .cancel).futures future).isSettled = true := by
        intro future upper
        rw [Wait.futures_change]
        by_cases here : future = next
        · subst here
          have waits := idle future more
          rw [replaceAt_self]
          cases progress : crew.wait.futures future with
          | running => exact absurd progress waits
          | pending => rfl
          | done result => rfl
          | cancelled => rfl
        · rw [replaceAt_of_ne here]
          exact earlier future (by omega)
      have nextIdle : Idle { crew with
          control := .cancelling (next + 1) fault
          wait := crew.wait.change next .cancel } := by
        intro future submitted
        rw [Wait.futures_change]
        by_cases here : future = next
        · subst here
          rw [replaceAt_self]
          have settled := nextEarlier future (Nat.lt_succ_self future)
          rw [Wait.futures_change, replaceAt_self] at settled
          intro running
          rw [running] at settled
          cases settled
        · rw [replaceAt_of_ne here]
          exact idle future submitted
      obtain ⟨events, left, submitted⟩ :=
        inductionHypothesis soundNext rfl nextEarlier nextIdle (by simp only; omega)
      refine ⟨.proceed :: events, ?_⟩
      rw [run_proceed, moved]
      exact ⟨left, submitted⟩

/-! ## What executors do -/

theorem step_submit {crew : Crew β} (can : crew.CanSubmit) (progress : Progress β) :
    (crew.step (.submit progress)).control = crew.control ∧
      (crew.step (.submit progress)).submitted = crew.submitted + 1 ∧
      (crew.step (.submit progress)).workers = crew.workers := by
  rw [step, if_pos can]
  exact ⟨rfl, rfl, rfl⟩

theorem futures_submit {crew : Crew β} (can : crew.CanSubmit) (progress : Progress β) :
    (crew.step (.submit progress)).futures = crew.futures ++ [progress.toFuture] := by
  simp only [step, if_pos can, futures, List.range_succ, List.map_append, List.map_singleton,
    replaceAt_self]
  congr 1
  apply List.map_congr_left
  intro future member
  rw [replaceAt_of_ne (Nat.ne_of_lt (List.mem_range.mp member))]

theorem Idle.submit {crew : Crew β} (idle : crew.Idle) (future : Future β) :
    (crew.step (.submit (.ofFuture future))).Idle := by
  rw [step]
  split
  · intro other submitted
    by_cases here : other = crew.submitted
    · subst here
      simp only [replaceAt_self]
      cases future with
      | waiting => nofun
      | returned result => nofun
      | failed fault => nofun
      | cancelled => nofun
    · simp only [replaceAt_of_ne here]
      exact idle other (by simp only at submitted; omega)
  · exact idle

/-- The events by which tasks are submitted and come so far at once. -/
def submits (futures : List (Future β)) : List (CrewEvent β) :=
  futures.map fun future => .submit (.ofFuture future)

theorem run_submits {crew : Crew β} (submitting : crew.control = .submitting) (idle : crew.Idle)
    {futures : List (Future β)} (room : crew.submitted + futures.length ≤ crew.workers) :
    (crew.run (submits futures)).control = .submitting ∧
      (crew.run (submits futures)).workers = crew.workers ∧
      (crew.run (submits futures)).futures = crew.futures ++ futures ∧
      (crew.run (submits futures)).Idle := by
  induction futures generalizing crew with
  | nil => exact ⟨submitting, rfl, (List.append_nil _).symm, idle⟩
  | cons first rest inductionHypothesis =>
      rw [List.length_cons] at room
      have can : crew.CanSubmit := ⟨congrArg Control.isSubmitting submitting, by omega⟩
      obtain ⟨control, submitted, workers⟩ := step_submit can (.ofFuture first)
      have nextRoom : (crew.step (.submit (.ofFuture first))).submitted + rest.length ≤
          (crew.step (.submit (.ofFuture first))).workers := by
        rw [submitted, workers]
        omega
      have later := inductionHypothesis (control.trans submitting) (idle.submit first) nextRoom
      rw [futures_submit can, workers, Progress.toFuture_ofFuture, List.append_assoc,
        List.singleton_append] at later
      exact later

theorem idle_start (workers : Nat) : (start workers : Crew β).Idle := by
  intro future submitted
  cases submitted

end Crew

namespace Executor

/-- The task at this position is the first of so many that is refused. -/
def RefusesFirst (executor : Executor) (count position : Nat) (fault : Fault) : Prop :=
  position < count ∧ executor position = .refuses fault ∧ executor.Accepts 0 position

theorem not_refusesFirst_of_accepts {executor : Executor} {count position : Nat} {fault : Fault}
    (accepts : executor.Accepts 0 count) : ¬ executor.RefusesFirst count position fault := by
  rintro ⟨fewer, refused, -⟩
  exact accepts position (Nat.zero_le position) (by omega) fault refused

theorem RefusesFirst.unique {executor : Executor} {count position other : Nat}
    {fault another : Fault} (first : executor.RefusesFirst count position fault)
    (same : executor.RefusesFirst count other another) : position = other ∧ fault = another := by
  obtain ⟨-, refused, accepts⟩ := first
  obtain ⟨-, otherRefused, otherAccepts⟩ := same
  have equal : position = other := by
    rcases Nat.lt_trichotomy position other with before | equal | later
    · exact absurd refused (otherAccepts position (Nat.zero_le position) (by omega) fault)
    · exact equal
    · exact absurd otherRefused (accepts other (Nat.zero_le other) (by omega) another)
  subst equal
  rw [refused] at otherRefused
  cases otherRefused
  exact ⟨rfl, rfl⟩

theorem exists_run_of_settles {executor : Executor} {task : Nat → ι → Action σ β} {items : List ι}
    {before after : σ} {futures : List (Future β)}
    (settles : executor.Settles task items before futures after)
    (count : futures.length = items.length)
    (settled : ∀ future ∈ futures, future.isSettled = true) :
    ∃ events, ((Crew.start items.length).run events).control = .left none ∧
      ((Crew.start items.length).run events).outcome =
        some ((executor.runAll task items).outcome before) := by
  have room : (Crew.start items.length : Crew β).submitted + futures.length ≤ items.length := by
    rw [count]
    exact Nat.le_of_eq (Nat.zero_add _)
  obtain ⟨control, workers, submitted, -⟩ :=
    Crew.run_submits rfl (Crew.idle_start items.length) room
  have sound := (Crew.isSound_start items.length).run (Crew.submits futures)
  generalize crewOf : (Crew.start items.length).run (Crew.submits futures) = crew at *
  have known : crew.futures = futures := submitted
  have all : crew.submitted = crew.workers := by
    rw [workers, ← Crew.length_futures, known]
    exact count
  have moved : crew.proceed = crew.await none := by
    simp only [Crew.proceed, control, if_pos all]
  have crewSettled : (crew.await none).AllSettled :=
    Crew.forall_mem_futures_iff.mp (known ▸ settled)
  have awaits : (crew.await none).IsSound := sound.await fun _ => all
  obtain ⟨events, left, same⟩ := awaits.exists_left_of_awaiting rfl crewSettled
  refine ⟨Crew.submits futures ++ .proceed :: events, ?_⟩
  rw [Crew.run_append, crewOf, Crew.run_proceed, moved]
  refine ⟨left, ?_⟩
  have collected : (executor.runAll task items).outcome before = Future.collect futures := by
    rw [Action.outcome, settles.runAll_eq]
    cases Future.collect futures with
    | ok results => rfl
    | error fault => rfl
  rw [collected, Crew.outcome, left, same]
  exact congrArg (fun futures => some (Future.collect futures)) known

theorem exists_run_of_refusal {executor : Executor} {task : Nat → ι → Action σ β} {items : List ι}
    {before after : σ} {futures : List (Future β)} {fault : Fault}
    (submitted : executor.submitFrom task 0 items before = .ok ⟨futures, some fault⟩ after)
    (fewer : futures.length < items.length) :
    ∃ events, ((Crew.start items.length).run events).control = .left (some fault) ∧
      ((Crew.start items.length).run events).submitted = futures.length ∧
      ((Crew.start items.length).run events).outcome =
        some ((executor.runAll task items).outcome before) := by
  have room : (Crew.start items.length : Crew β).submitted + futures.length ≤ items.length := by
    have zero : (Crew.start items.length : Crew β).submitted = 0 := rfl
    omega
  obtain ⟨control, workers, known, idle⟩ :=
    Crew.run_submits rfl (Crew.idle_start items.length) room
  have sound := (Crew.isSound_start items.length).run (Crew.submits futures)
  generalize crewOf : (Crew.start items.length).run (Crew.submits futures) = crew at *
  have count : crew.submitted = futures.length := by
    rw [← Crew.length_futures, known]
    rfl
  have can : crew.CanSubmit := by
    refine ⟨congrArg Control.isSubmitting control, ?_⟩
    rw [count, workers]
    exact fewer
  have moved : crew.step (.refuse fault) = { crew with control := .cancelling 0 fault } :=
    if_pos can
  have cancels := sound.step (.refuse fault)
  rw [moved] at cancels
  obtain ⟨events, left, same⟩ := cancels.exists_left_of_cancelling rfl nofun idle
  refine ⟨Crew.submits futures ++ .refuse fault :: events, ?_⟩
  rw [Crew.run_append, crewOf, Crew.run_cons, moved]
  refine ⟨left, same.trans count, ?_⟩
  have refused : (executor.runAll task items).outcome before = .error fault := by
    rw [Action.outcome, runAll, Action.bind_apply, submitted]
    rfl
  rw [refused, Crew.outcome, left]

/-- What an executor makes of its tasks is one of the things that can happen, with the first refusal
as the one that is met with. -/
theorem exists_run (executor : Executor) (task : Nat → ι → Action σ β) (items : List ι)
    (before : σ) :
    ∃ events, ((Crew.start items.length).run events).outcome =
        some ((executor.runAll task items).outcome before) ∧
      ∀ position fault, Crew.Refuses items.length events position fault ↔
        executor.RefusesFirst items.length position fault := by
  obtain ⟨⟨futures, refusal⟩, middle, submitted, accepts, stops⟩ :=
    exists_submitFrom_eq_ok executor task items 0 before
  cases refusal with
  | none =>
      -- Every task is submitted, and is then finished if it still waits.
      obtain ⟨settled, after, finished, count, allSettled⟩ :=
        exists_finishFrom_eq_ok stops 0 middle
      have settles : executor.Settles task items before settled after :=
        ⟨futures, middle, submitted, finished⟩
      obtain ⟨events, left, outcome⟩ := exists_run_of_settles settles count allSettled
      refine ⟨events, outcome, ?_⟩
      intro position fault
      rw [← Crew.refusal_run_iff, left]
      have acceptsAll : executor.Accepts 0 items.length := stops ▸ accepts
      constructor
      · rintro ⟨refused, -⟩
        cases refused
      · intro first
        exact absurd first (not_refusesFirst_of_accepts acceptsAll)
  | some fault =>
      obtain ⟨fewer, refused⟩ := stops
      have first : executor.RefusesFirst items.length futures.length fault :=
        ⟨fewer, by rwa [Nat.zero_add] at refused, accepts⟩
      obtain ⟨events, left, count, outcome⟩ := exists_run_of_refusal submitted fewer
      refine ⟨events, outcome, ?_⟩
      intro position other
      rw [← Crew.refusal_run_iff, left, count]
      constructor
      · rintro ⟨same, rfl⟩
        cases same
        exact first
      · intro otherFirst
        obtain ⟨rfl, rfl⟩ := first.unique otherFirst
        exact ⟨rfl, rfl⟩

end Executor

/-- Whatever happens to futures and callbacks, the countdown does not go below zero, a wait does not
end before all its futures are settled, and it ends when they are settled and all have their
callbacks.  So whoever submits tasks leaves only after all that were submitted have come to an end,
with the refusal if a task was refused, and with what is collected from all of them otherwise.  And
what an executor makes of its tasks is one of the things that can happen. -/
theorem awaits_all :
    (∀ (futures : Nat → Progress β) (watched : List Nat) (events : List (WaitEvent β)),
      let wait := (Wait.begin futures watched).run events
      0 ≤ wait.countdown.remaining ∧
      (wait.countdown.Passes → ∀ future ∈ watched, (wait.futures future).isSettled = true) ∧
      (wait.countdown.registered = watched.length →
        (∀ future ∈ watched, (wait.futures future).isSettled = true) →
        wait.countdown.Passes ∧ (watched ≠ [] → wait.countdown.finished = true))) ∧
    (∀ (workers : Nat) (events : List (CrewEvent β)) (result : Except Fault (List β)),
      let crew := (Crew.start workers).run events
      crew.outcome = some result →
        crew.AllSettled ∧
        (∀ position fault, Crew.Refuses workers events position fault →
          crew.submitted = position ∧ result = .error fault) ∧
        ((∀ position fault, ¬ Crew.Refuses workers events position fault) →
          crew.submitted = workers ∧ result = Future.collect crew.futures)) ∧
    ∀ (executor : Executor) (task : Nat → ι → Action σ β) (items : List ι) (before : σ),
      ∃ events, ((Crew.start items.length).run events).outcome =
          some ((executor.runAll task items).outcome before) ∧
        ∀ position fault, Crew.Refuses items.length events position fault ↔
          executor.RefusesFirst items.length position fault := by
  refine ⟨?_, ?_, Executor.exists_run⟩
  · intro futures watched events wait
    have sound : wait.IsSound := (Wait.isSound_begin futures watched).run events
    have same : wait.countdown.watched = watched := Wait.watched_run _ events
    refine ⟨sound.remaining_nonneg, ?_, ?_⟩
    · intro passes future member
      exact sound.isSettled_of_passes passes (same.symm ▸ member)
    · intro registered settled
      have finished : watched ≠ [] → wait.countdown.finished = true := by
        intro some
        rw [← same] at some registered settled
        exact sound.finished_of_isSettled some registered settled
      refine ⟨?_, finished⟩
      by_cases nothing : watched = []
      · exact Or.inl (same.trans nothing)
      · exact Or.inr ⟨same.symm ▸ registered, finished nothing⟩
  · intro workers events result crew ended
    have sound : crew.IsSound := (Crew.isSound_start workers).run events
    have all : crew.workers = workers := Crew.workers_run _ events
    obtain ⟨settled, refusal, collected⟩ := sound.of_outcome ended
    refine ⟨settled, ?_, ?_⟩
    · intro position fault refuses
      obtain ⟨refused, submitted⟩ :=
        (Crew.refusal_run_iff workers events position fault).mpr refuses
      exact ⟨submitted, refusal fault refused⟩
    · intro accepted
      have none : crew.control.refusal = none := by
        apply Option.eq_none_iff_forall_not_mem.mpr
        intro fault refused
        exact accepted crew.submitted fault
          ((Crew.refusal_run_iff workers events crew.submitted fault).mp ⟨refused, rfl⟩)
      rw [all] at collected
      exact collected none

theorem awaits_all_refused :
    let refusal : Fault := .raised .keyboardInterrupt "stop"
    let events : List (CrewEvent Nat) :=
      [.submit .pending, .submit .running, .refuse refusal, .proceed, .proceed, .proceed,
        .proceed, .change 1 (.complete (.ok 5)), .proceed, .proceed]
    let changes : List (WaitEvent Nat) :=
      [.register, .change 1 (.complete (.ok 5)), .register, .change 0 .cancel]
    let wait := (Wait.begin (fun _ => .pending) [0, 1]).run changes
    ((Crew.start 3).run events).outcome = some (.error refusal) ∧
      ((Crew.start 3).run events).AllSettled ∧ ((Crew.start 3).run events).submitted = 2 ∧
      wait.countdown.Passes ∧ ∀ future ∈ [0, 1], (wait.futures future).isSettled = true := by
  intro refusal events changes wait
  obtain ⟨waits, leaves, -⟩ := @awaits_all Unit Unit Nat
  have ended : ((Crew.start 3).run events).outcome = some (.error refusal) := by
    simp only [events, refusal]
    rfl
  have refuses : Crew.Refuses 3 events 2 refusal :=
    ⟨[.submit .pending, .submit .running], _, rfl, by decide, rfl⟩
  obtain ⟨settled, refused, -⟩ := leaves 3 events (.error refusal) ended
  have passes : wait.countdown.Passes := by decide
  obtain ⟨-, waited, -⟩ := waits (fun _ => .pending) [0, 1] changes
  exact ⟨ended, settled, (refused 2 refusal refuses).1, passes, waited passes⟩

end RandomSearch
