import RandomSearch.Parallel.Await
import RandomSearch.Proofs.Failures

/-!
# No future is left behind

The countdown of one who waits always equals the number of futures that have not called back,
whether because they are not settled or because they have not been given their callback yet.  So the
signal is given exactly when all are settled, and whoever submits tasks and waits for them leaves no
future that is not.
-/

namespace RandomSearch

variable {σ ι β : Type}

/-! ## Counting down -/

namespace Countdown

theorem watched_callbacks (countdown : Countdown) (count : Nat) :
    (countdown.callbacks count).watched = countdown.watched := by
  induction count generalizing countdown with
  | zero => rfl
  | succ count inductionHypothesis => exact inductionHypothesis countdown.callback

theorem registered_callbacks (countdown : Countdown) (count : Nat) :
    (countdown.callbacks count).registered = countdown.registered := by
  induction count generalizing countdown with
  | zero => rfl
  | succ count inductionHypothesis => exact inductionHypothesis countdown.callback

theorem remaining_callbacks (countdown : Countdown) (count : Nat) :
    (countdown.callbacks count).remaining = countdown.remaining - count := by
  induction count generalizing countdown with
  | zero => exact (Int.sub_zero _).symm
  | succ count inductionHypothesis =>
      have later := inductionHypothesis countdown.callback
      have next : countdown.callback.remaining = countdown.remaining - 1 := rfl
      rw [callbacks, later, next]
      omega

/-- The signal is given by the callback that counts down to zero. -/
theorem finished_callbacks_iff (countdown : Countdown) (count : Nat) :
    (countdown.callbacks count).finished = true ↔
      countdown.finished = true ∨ (0 < countdown.remaining ∧ countdown.remaining ≤ count) := by
  induction count generalizing countdown with
  | zero =>
      constructor
      · exact Or.inl
      · rintro (already | ⟨positive, notPositive⟩)
        · exact already
        · omega
  | succ count inductionHypothesis =>
      have now : countdown.callback.finished = true ↔
          countdown.finished = true ∨ countdown.remaining - 1 = 0 := by
        simp [callback]
      have next : countdown.callback.remaining = countdown.remaining - 1 := rfl
      rw [callbacks, inductionHypothesis, now, next, or_assoc]
      apply or_congr_right
      omega

/-- If the signal tells whether the count is zero, it does so after some callbacks that do not
exceed the count. -/
theorem finished_callbacks_of_le {countdown : Countdown} {count : Nat}
    (finished : countdown.finished = true ↔ countdown.watched ≠ [] ∧ countdown.remaining = 0)
    (enough : count ≤ countdown.remaining)
    (atMost : countdown.remaining ≤ countdown.watched.length) :
    (countdown.callbacks count).finished = true ↔
      countdown.watched ≠ [] ∧ countdown.remaining - count = 0 := by
  have some : countdown.watched ≠ [] ↔ 0 < countdown.watched.length := List.length_pos_iff.symm
  rw [finished_callbacks_iff, finished, some]
  omega

end Countdown

namespace Wait

/-- How many futures have called back: those to which a callback has been added and that are
settled. -/
def calledBack (wait : Wait β) : Nat :=
  (wait.countdown.watched.take wait.countdown.registered).countP fun future =>
    (wait.futures future).isSettled

/-- A wait in which every callback has been called exactly once if its future is settled and waits
there otherwise, and every call has counted down by one. -/
structure IsSound (wait : Wait β) : Prop where
  registered : wait.countdown.registered ≤ wait.countdown.watched.length
  callbacks : ∀ future, wait.callbacks future =
    if (wait.futures future).isSettled then 0
    else (wait.countdown.watched.take wait.countdown.registered).count future
  remaining : wait.countdown.remaining = wait.countdown.watched.length - (wait.calledBack : Int)
  finished : wait.countdown.finished = true ↔
    wait.countdown.watched ≠ [] ∧ wait.countdown.remaining = 0

theorem isSound_begin (futures : Nat → Progress β) (watched : List Nat) :
    (begin futures watched).IsSound where
  registered := Nat.zero_le _
  callbacks future := (ite_self 0).symm
  remaining := by simp [begin, Countdown.begin, calledBack]
  finished := by simp [begin, Countdown.begin]

theorem calledBack_le (wait : Wait β) : wait.calledBack ≤ wait.countdown.watched.length := by
  have counted : wait.calledBack ≤
      (wait.countdown.watched.take wait.countdown.registered).length :=
    List.countP_le_length
  rw [List.length_take] at counted
  omega

theorem IsSound.remaining_nonneg {wait : Wait β} (sound : wait.IsSound) :
    0 ≤ wait.countdown.remaining := by
  have atMost := wait.calledBack_le
  rw [sound.remaining]
  omega

/-! ## What happens keeps the count -/

/-- A future that is settled by a change is counted as often as it is waited for. -/
theorem countP_replaceAt {futures : Nat → Progress β} {future : Nat} {moved : Progress β}
    (unsettled : (futures future).isSettled = false) (settled : moved.isSettled = true)
    (watched : List Nat) :
    watched.countP (fun other => (replaceAt futures future moved other).isSettled) =
      watched.countP (fun other => (futures other).isSettled) + watched.count future := by
  induction watched with
  | nil => rfl
  | cons first rest inductionHypothesis =>
      rw [List.countP_cons, List.countP_cons, List.count_cons, inductionHypothesis]
      by_cases same : first = future
      · subst same
        simp [settled, unsettled]
        omega
      · simp [replaceAt_of_ne same, same]
        omega

theorem IsSound.settle {wait : Wait β} (sound : wait.IsSound) {future : Nat} {moved : Progress β}
    (unsettled : (wait.futures future).isSettled = false) (settled : moved.isSettled = true) :
    (wait.settle future moved).IsSound := by
  have watched : (wait.settle future moved).countdown.watched = wait.countdown.watched :=
    wait.countdown.watched_callbacks (wait.callbacks future)
  have registered : (wait.settle future moved).countdown.registered = wait.countdown.registered :=
    wait.countdown.registered_callbacks (wait.callbacks future)
  have remaining : (wait.settle future moved).countdown.remaining =
      wait.countdown.remaining - wait.callbacks future :=
    wait.countdown.remaining_callbacks (wait.callbacks future)
  -- The future has as many callbacks as it is waited for, so all of these are counted now.
  have calls : wait.callbacks future =
      (wait.countdown.watched.take wait.countdown.registered).count future := by
    rw [sound.callbacks future, unsettled]
    rfl
  have counted : (wait.settle future moved).calledBack =
      wait.calledBack + wait.callbacks future := by
    rw [calledBack, watched, registered, calls]
    exact countP_replaceAt unsettled settled _
  have atMost := (wait.settle future moved).calledBack_le
  rw [counted, watched] at atMost
  have before := sound.remaining
  refine ⟨?_, ?_, ?_, ?_⟩
  · rw [watched, registered]
    exact sound.registered
  · intro other
    rw [watched, registered]
    by_cases here : other = future
    · subst here
      simp only [Wait.settle, replaceAt_self, settled, if_true]
    · simp only [Wait.settle, replaceAt_of_ne here]
      exact sound.callbacks other
  · rw [remaining, counted, watched]
    omega
  · rw [watched, remaining]
    exact Countdown.finished_callbacks_of_le sound.finished (by omega) (by omega)

theorem IsSound.ofSameSettled {wait : Wait β} (sound : wait.IsSound) {futures : Nat → Progress β}
    (same : ∀ future, (futures future).isSettled = (wait.futures future).isSettled) :
    IsSound { wait with futures := futures } where
  registered := sound.registered
  callbacks future := by
    rw [same]
    exact sound.callbacks future
  remaining := by
    simp only [calledBack, same]
    exact sound.remaining
  finished := sound.finished

theorem IsSound.change {wait : Wait β} (sound : wait.IsSound) (future : Nat) (change : Change β) :
    (wait.change future change).IsSound := by
  by_cases settles : (wait.futures future).isSettled = false ∧
      ((wait.futures future).change change).isSettled = true
  · rw [Wait.change, if_pos settles]
    exact sound.settle settles.1 settles.2
  · rw [Wait.change, if_neg settles]
    apply sound.ofSameSettled
    intro other
    by_cases here : other = future
    · subst here
      rw [replaceAt_self]
      cases before : (wait.futures other).isSettled with
      | false => simpa [before] using settles
      | true => rw [Progress.change_of_isSettled before, before]
    · rw [replaceAt_of_ne here]

theorem take_add {countdown : Countdown} {future : Nat}
    (next : countdown.watched[countdown.registered]? = some future) :
    countdown.add.watched.take countdown.add.registered =
      countdown.watched.take countdown.registered ++ [future] := by
  have added : countdown.watched.take (countdown.registered + 1) =
      countdown.watched.take countdown.registered ++
        countdown.watched[countdown.registered]?.toList :=
    List.take_add_one
  rw [next] at added
  exact added

theorem IsSound.callAtOnce {wait : Wait β} (sound : wait.IsSound) {future : Nat}
    (next : wait.countdown.watched[wait.countdown.registered]? = some future)
    (settled : (wait.futures future).isSettled = true) : wait.callAtOnce.IsSound := by
  obtain ⟨bound, -⟩ := List.getElem?_eq_some_iff.mp next
  have extended : wait.callAtOnce.countdown.watched.take wait.callAtOnce.countdown.registered =
      wait.countdown.watched.take wait.countdown.registered ++ [future] := take_add next
  have counted : wait.callAtOnce.calledBack = wait.calledBack + 1 := by
    rw [calledBack, extended, List.countP_append]
    simp only [Wait.callAtOnce, List.countP_singleton, settled, if_true, calledBack]
  have atMost : wait.calledBack + 1 ≤ wait.countdown.watched.length :=
    counted ▸ wait.callAtOnce.calledBack_le
  have before := sound.remaining
  have remaining : wait.callAtOnce.countdown.remaining = wait.countdown.remaining - 1 := rfl
  have watched : wait.callAtOnce.countdown.watched = wait.countdown.watched := rfl
  refine ⟨bound, ?_, ?_, ?_⟩
  · intro other
    have kept : wait.callAtOnce.callbacks other = _ := sound.callbacks other
    rw [extended, List.count_append, kept]
    cases otherSettled : (wait.futures other).isSettled with
    | true => simp [Wait.callAtOnce, otherSettled]
    | false =>
        have different : future ≠ other := by
          rintro rfl
          rw [settled] at otherSettled
          cases otherSettled
        simp [Wait.callAtOnce, otherSettled, different]
  · rw [remaining, counted, watched]
    omega
  · have enough : ((1 : Nat) : Int) ≤ wait.countdown.remaining := by omega
    have fits : wait.countdown.remaining ≤ wait.countdown.watched.length := by omega
    have finished : wait.countdown.add.finished = true ↔
        wait.countdown.add.watched ≠ [] ∧ wait.countdown.add.remaining = 0 := sound.finished
    exact Countdown.finished_callbacks_of_le finished enough fits

theorem IsSound.addCallback {wait : Wait β} (sound : wait.IsSound) {future : Nat}
    (next : wait.countdown.watched[wait.countdown.registered]? = some future)
    (unsettled : (wait.futures future).isSettled = false) :
    (wait.addCallback future).IsSound := by
  obtain ⟨bound, -⟩ := List.getElem?_eq_some_iff.mp next
  have extended : (wait.addCallback future).countdown.watched.take
      (wait.addCallback future).countdown.registered =
        wait.countdown.watched.take wait.countdown.registered ++ [future] := take_add next
  refine ⟨bound, ?_, ?_, sound.finished⟩
  · intro other
    have kept := sound.callbacks other
    rw [extended, List.count_append]
    by_cases here : other = future
    · subst here
      simp [Wait.addCallback, kept, unsettled]
    · simp [Wait.addCallback, replaceAt_of_ne here, kept, Ne.symm here]
  · have same : (wait.addCallback future).calledBack = wait.calledBack := by
      rw [calledBack, extended, List.countP_append]
      simp only [Wait.addCallback, List.countP_singleton, unsettled, Bool.false_eq_true, if_false,
        Nat.add_zero, calledBack]
    rw [same]
    exact sound.remaining

theorem IsSound.register {wait : Wait β} (sound : wait.IsSound) : wait.register.IsSound := by
  cases next : wait.countdown.watched[wait.countdown.registered]? with
  | none =>
      have same : wait.register = wait := by
        simp only [Wait.register, next]
      rw [same]
      exact sound
  | some future =>
      simp only [Wait.register, next]
      split
      · next settled => exact sound.callAtOnce next settled
      · next unsettled => exact sound.addCallback next (Bool.not_eq_true _ ▸ unsettled)

theorem IsSound.step {wait : Wait β} (sound : wait.IsSound) (event : WaitEvent β) :
    (wait.step event).IsSound := by
  cases event with
  | change future change => exact sound.change future change
  | register => exact sound.register

theorem IsSound.run {wait : Wait β} (sound : wait.IsSound) (events : List (WaitEvent β)) :
    (wait.run events).IsSound := by
  induction events generalizing wait with
  | nil => exact sound
  | cons event later inductionHypothesis => exact inductionHypothesis (sound.step event)

@[simp]
theorem watched_change (wait : Wait β) (future : Nat) (change : Change β) :
    (wait.change future change).countdown.watched = wait.countdown.watched := by
  rw [Wait.change]
  split
  · exact wait.countdown.watched_callbacks (wait.callbacks future)
  · rfl

@[simp]
theorem watched_register (wait : Wait β) :
    wait.register.countdown.watched = wait.countdown.watched := by
  rw [Wait.register]
  split
  · rfl
  · split
    · rfl
    · rfl

@[simp]
theorem watched_run (wait : Wait β) (events : List (WaitEvent β)) :
    (wait.run events).countdown.watched = wait.countdown.watched := by
  induction events generalizing wait with
  | nil => rfl
  | cons event later inductionHypothesis =>
      have next : (wait.step event).countdown.watched = wait.countdown.watched := by
        cases event with
        | change future change => exact wait.watched_change future change
        | register => exact wait.watched_register
      exact (inductionHypothesis (wait.step event)).trans next

@[simp]
theorem futures_change (wait : Wait β) (future : Nat) (change : Change β) :
    (wait.change future change).futures =
      replaceAt wait.futures future ((wait.futures future).change change) := by
  rw [Wait.change]
  split
  · rfl
  · rfl

@[simp]
theorem futures_register (wait : Wait β) : wait.register.futures = wait.futures := by
  rw [Wait.register]
  split
  · rfl
  · split
    · rfl
    · rfl

theorem registered_register {wait : Wait β}
    (more : wait.countdown.registered < wait.countdown.watched.length) :
    wait.register.countdown.registered = wait.countdown.registered + 1 := by
  rw [Wait.register, List.getElem?_eq_getElem more]
  simp only
  split
  · rfl
  · rfl

/-- Nothing happens to a settled future any more. -/
theorem futures_change_of_isSettled {wait : Wait β} {settled : Nat}
    (before : (wait.futures settled).isSettled = true) (future : Nat) (change : Change β) :
    (wait.change future change).futures settled = wait.futures settled := by
  rw [futures_change]
  by_cases here : settled = future
  · subst here
    rw [replaceAt_self, Progress.change_of_isSettled before]
  · rw [replaceAt_of_ne here]

/-- While nothing is waited for, no callback is anywhere. -/
theorem IsSound.ofNothingWatched {wait : Wait β} (sound : wait.IsSound)
    (nothing : wait.countdown.watched = []) (futures : Nat → Progress β) :
    IsSound { wait with futures := futures } where
  registered := sound.registered
  callbacks future := by
    have none := sound.callbacks future
    rw [nothing, List.take_nil, List.count_nil, ite_self] at none
    rw [nothing, List.take_nil, List.count_nil, ite_self]
    exact none
  remaining := by
    have zero := sound.remaining
    simp only [calledBack, nothing, List.take_nil, List.countP_nil] at zero
    simp only [calledBack, nothing, List.take_nil, List.countP_nil]
    exact zero
  finished := sound.finished

/-! ## What the signal says -/

/-- Whoever waits does not go on before all is settled. -/
theorem IsSound.isSettled_of_passes {wait : Wait β} (sound : wait.IsSound)
    (passes : wait.countdown.Passes) {future : Nat} (member : future ∈ wait.countdown.watched) :
    (wait.futures future).isSettled = true := by
  rcases passes with nothing | ⟨registered, finished⟩
  · rw [nothing] at member
    cases member
  · obtain ⟨-, zero⟩ := sound.finished.mp finished
    have all : wait.calledBack = wait.countdown.watched.length := by
      have remaining := sound.remaining
      omega
    rw [calledBack, registered, List.take_length] at all
    exact List.countP_eq_length.mp all future member

/-- The signal is not missed. -/
theorem IsSound.finished_of_isSettled {wait : Wait β} (sound : wait.IsSound)
    (some : wait.countdown.watched ≠ [])
    (registered : wait.countdown.registered = wait.countdown.watched.length)
    (settled : ∀ future ∈ wait.countdown.watched, (wait.futures future).isSettled = true) :
    wait.countdown.finished = true := by
  have all : wait.calledBack = wait.countdown.watched.length := by
    rw [calledBack, registered, List.take_length]
    exact List.countP_eq_length.mpr settled
  have zero : wait.countdown.remaining = 0 := by
    rw [sound.remaining, all]
    omega
  exact sound.finished.mpr ⟨some, zero⟩

end Wait

end RandomSearch
