import RandomSearch.Parallel.Executor

/-!
# Waiting for tasks side by side

Tasks that run at the same time are waited for with a countdown.  Whoever waits adds a callback to
each of their futures.  A future calls its callbacks when it is settled, or at once if it is settled
already; every call counts down by one, and the last gives the signal.  Submitting tasks, cancelling
them after a refusal and waiting for them are steps between which anything may happen to the tasks.
-/

namespace RandomSearch

/-! ## Futures -/

/-- How far a task has come while others are at work. -/
inductive Progress (β : Type) where
  | pending
  | running
  | done (result : Except Fault β)
  | cancelled

inductive Change (β : Type) where
  | start
  | complete (result : Except Fault β)
  | cancel

namespace Progress

variable {β : Type}

def isSettled : Progress β → Bool
  | .pending | .running => false
  | .done _ | .cancelled => true

/-- How far a task has come after a change.  It can be cancelled only before it runs, and once it is
settled it stays as it is. -/
def change : Progress β → Change β → Progress β
  | .pending, .start => .running
  | .pending, .cancel => .cancelled
  | .pending, .complete result | .running, .complete result => .done result
  | progress, _ => progress

theorem change_of_isSettled {progress : Progress β} (settled : progress.isSettled = true)
    (change : Change β) : progress.change change = progress := by
  cases progress with
  | pending => cases settled
  | running => cases settled
  | done result => rfl
  | cancelled => rfl

/-- What is known of the task once all are waited for. -/
def toFuture : Progress β → Future β
  | .pending | .running => .waiting
  | .done result => .ofResult result
  | .cancelled => .cancelled

/-- How far a task has come of which so much is known, if it does not run. -/
def ofFuture : Future β → Progress β
  | .waiting => .pending
  | .returned result => .done (.ok result)
  | .failed fault => .done (.error fault)
  | .cancelled => .cancelled

end Progress

def replaceAt {γ : Type} (table : Nat → γ) (place : Nat) (entry : γ) : Nat → γ := fun other =>
  if other = place then entry else table other

@[simp]
theorem replaceAt_self {γ : Type} (table : Nat → γ) (place : Nat) (entry : γ) :
    replaceAt table place entry place = entry :=
  if_pos rfl

theorem replaceAt_of_ne {γ : Type} {table : Nat → γ} {place other : Nat} {entry : γ}
    (different : other ≠ place) : replaceAt table place entry other = table other :=
  if_neg different

/-! ## The countdown -/

structure Countdown where
  /-- The futures that are waited for, by their numbers. -/
  watched : List Nat
  /-- To how many of them a callback has been added. -/
  registered : Nat
  remaining : Int
  finished : Bool
  deriving DecidableEq, Repr

namespace Countdown

def begin (watched : List Nat) : Countdown :=
  ⟨watched, 0, watched.length, false⟩

def add (countdown : Countdown) : Countdown :=
  { countdown with registered := countdown.registered + 1 }

def callback (countdown : Countdown) : Countdown :=
  let remaining := countdown.remaining - 1
  { countdown with
    remaining := remaining
    finished := countdown.finished || remaining == 0 }

def callbacks : Nat → Countdown → Countdown
  | 0, countdown => countdown
  | count + 1, countdown => callbacks count countdown.callback

/-- Whether the wait is over.  There is none if nothing is waited for. -/
def Passes (countdown : Countdown) : Prop :=
  countdown.watched = [] ∨
    (countdown.registered = countdown.watched.length ∧ countdown.finished = true)

instance (countdown : Countdown) : Decidable countdown.Passes :=
  inferInstanceAs (Decidable (_ ∨ _))

end Countdown

/-! ## Waiting -/

/-- Futures with the number of callbacks that each has not called yet, and a countdown. -/
structure Wait (β : Type) where
  futures : Nat → Progress β
  callbacks : Nat → Nat
  countdown : Countdown

inductive WaitEvent (β : Type) where
  | change (future : Nat) (change : Change β)
  | register

namespace Wait

variable {β : Type}

def begin (futures : Nat → Progress β) (watched : List Nat) : Wait β :=
  ⟨futures, fun _ => 0, .begin watched⟩

/-- A future is settled, and calls all callbacks that it has. -/
def settle (wait : Wait β) (future : Nat) (settled : Progress β) : Wait β :=
  { futures := replaceAt wait.futures future settled
    callbacks := replaceAt wait.callbacks future 0
    countdown := wait.countdown.callbacks (wait.callbacks future) }

def change (wait : Wait β) (future : Nat) (change : Change β) : Wait β :=
  let present := wait.futures future
  let moved := present.change change
  if present.isSettled = false ∧ moved.isSettled = true then
    wait.settle future moved
  else
    { wait with futures := replaceAt wait.futures future moved }

/-- A future that is settled already calls the callback that is added to it. -/
def callAtOnce (wait : Wait β) : Wait β :=
  { wait with countdown := wait.countdown.add.callback }

/-- A future that is not settled keeps the callback that is added to it. -/
def addCallback (wait : Wait β) (future : Nat) : Wait β :=
  { wait with
    callbacks := replaceAt wait.callbacks future (wait.callbacks future + 1)
    countdown := wait.countdown.add }

def register (wait : Wait β) : Wait β :=
  match wait.countdown.watched[wait.countdown.registered]? with
  | none => wait
  | some future =>
      if (wait.futures future).isSettled then wait.callAtOnce else wait.addCallback future

def step (wait : Wait β) : WaitEvent β → Wait β
  | .change future change => wait.change future change
  | .register => wait.register

def run (wait : Wait β) (events : List (WaitEvent β)) : Wait β :=
  events.foldl step wait

end Wait

/-! ## Submitting and waiting -/

/-- Where one is who submits tasks and waits for them. -/
inductive Control where
  | submitting
  /-- A task was refused, and those before it are cancelled one after the other. -/
  | cancelling (next : Nat) (refusal : Fault)
  | awaiting (refusal : Option Fault)
  | left (refusal : Option Fault)

namespace Control

def isSubmitting : Control → Bool
  | .submitting => true
  | _ => false

def refusal : Control → Option Fault
  | .submitting => none
  | .cancelling _ refusal => some refusal
  | .awaiting refusal | .left refusal => refusal

end Control

/-- Tasks for so many workers, and whoever submits and awaits them. -/
structure Crew (β : Type) where
  workers : Nat
  submitted : Nat
  control : Control
  wait : Wait β

inductive CrewEvent (β : Type) where
  | change (future : Nat) (change : Change β)
  /-- The next task is accepted, and may have come some way at once. -/
  | submit (progress : Progress β)
  | refuse (fault : Fault)
  /-- Whoever submits and awaits takes the next step, if there is one to take. -/
  | proceed

namespace Crew

variable {β : Type}

def start (workers : Nat) : Crew β :=
  ⟨workers, 0, .submitting, .begin (fun _ => .pending) []⟩

def await (crew : Crew β) (refusal : Option Fault) : Crew β :=
  { crew with
    control := .awaiting refusal
    wait := .begin crew.wait.futures (List.range crew.submitted) }

def proceed (crew : Crew β) : Crew β :=
  match crew.control with
  | .submitting => if crew.submitted = crew.workers then crew.await none else crew
  | .cancelling next refusal =>
      if next < crew.submitted then
        { crew with
          control := .cancelling (next + 1) refusal
          wait := crew.wait.change next .cancel }
      else
        crew.await (some refusal)
  | .awaiting refusal =>
      if crew.wait.countdown.Passes then
        { crew with control := .left refusal }
      else
        { crew with wait := crew.wait.register }
  | .left _ => crew

def CanSubmit (crew : Crew β) : Prop :=
  crew.control.isSubmitting = true ∧ crew.submitted < crew.workers

instance (crew : Crew β) : Decidable crew.CanSubmit :=
  inferInstanceAs (Decidable (_ ∧ _))

def step (crew : Crew β) : CrewEvent β → Crew β
  | .change future change => { crew with wait := crew.wait.change future change }
  | .submit progress =>
      if crew.CanSubmit then
        { crew with
          submitted := crew.submitted + 1
          wait := { crew.wait with
            futures := replaceAt crew.wait.futures crew.submitted progress } }
      else
        crew
  | .refuse fault =>
      if crew.CanSubmit then { crew with control := .cancelling 0 fault } else crew
  | .proceed => crew.proceed

def run (crew : Crew β) (events : List (CrewEvent β)) : Crew β :=
  events.foldl step crew

def futures (crew : Crew β) : List (Future β) :=
  (List.range crew.submitted).map fun future => (crew.wait.futures future).toFuture

/-- What submitting and awaiting has come to, once it is over: the refusal, or else what is
collected from the futures. -/
def outcome (crew : Crew β) : Option (Except Fault (List β)) :=
  match crew.control with
  | .left (some refusal) => some (.error refusal)
  | .left none => some (Future.collect crew.futures)
  | _ => none

/-- Among all that happens, the task at some position is refused. -/
def Refuses (workers : Nat) (events : List (CrewEvent β)) (position : Nat) (fault : Fault) : Prop :=
  ∃ earlier later, events = earlier ++ .refuse fault :: later ∧
    ((start workers).run earlier).CanSubmit ∧ ((start workers).run earlier).submitted = position

end Crew

end RandomSearch
