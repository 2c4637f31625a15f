import RandomSearch.Proofs.Rounds
import RandomSearch.Proofs.Session
import RandomSearch.Sampler.Calls

/-!
# The course of a pass

A pass draws its candidates, asks every constraint about each of them, candidate by candidate, and
selects from the whole batch.  At the first call of the caller's code that fails, the pass is over,
and nothing that would come later is called.
-/

namespace RandomSearch

variable {σ α : Type}

/-! ## Faults -/

/-- The fault that a fault of the caller's code becomes when it leaves a phase. -/
def Fault.leaving (phase : Phase) (worker : Option Int) (fault : Fault) : Fault :=
  if fault.isInterrupt then fault else .phaseFailed (.phase phase) worker (some fault)

/-- The fault that a fault of a predicate becomes when it leaves the constraint. -/
def Fault.ofPredicate (fault : Fault) : Fault :=
  if fault.kind == .stopIteration then .predicateStopped else fault

/-! ## Questions -/

/-- What a constraint, given with its position, is asked about a candidate. -/
structure Question (σ α : Type) where
  constraint : Constraint σ α
  position : Nat
  candidate : α

namespace Question

def ask (question : Question σ α) : Action σ Bool :=
  question.constraint.verdict question.candidate

def call (question : Question σ α) : Call α :=
  .ask question.position question.candidate

theorem ask_eq_error_iff {question : Question σ α} {before after : σ} {fault : Fault} :
    question.ask before = .error fault after ↔
      ∃ raised, question.constraint.predicate question.candidate before = .error raised after ∧
        fault = raised.ofPredicate := by
  rw [ask, Constraint.verdict]
  cases question.constraint.predicate question.candidate before with
  | ok value last => simp
  | error raised last =>
      constructor
      · rintro ⟨rfl, rfl⟩
        exact ⟨raised, rfl, rfl⟩
      · rintro ⟨_, ⟨rfl, rfl⟩, rfl⟩
        rfl

/-- All constraints are asked about a candidate. -/
def about (constraints : List (Constraint σ α)) (candidate : α) : List (Question σ α) :=
  constraints.zipIdx.map fun (constraint, position) => ⟨constraint, position, candidate⟩

end Question

/-- The questions about some candidates: candidate by candidate, and about each of them constraint
by constraint. -/
def Sampler.questions (sampler : Sampler σ α) (candidates : List α) : List (Question σ α) :=
  candidates.flatMap (Question.about sampler.constraints)

theorem Sampler.mem_questions_iff {sampler : Sampler σ α} {candidates : List α}
    {question : Question σ α} :
    question ∈ sampler.questions candidates ↔
      question.candidate ∈ candidates ∧
        sampler.constraints[question.position]? = some question.constraint := by
  constructor
  · intro member
    obtain ⟨candidate, present, about⟩ := List.mem_flatMap.mp member
    obtain ⟨place, placed, rfl⟩ := List.mem_map.mp about
    exact ⟨present, List.mem_zipIdx_iff_getElem?.mp placed⟩
  · rintro ⟨present, here⟩
    refine List.mem_flatMap.mpr ⟨question.candidate, present, List.mem_map.mpr ?_⟩
    exact ⟨(question.constraint, question.position), List.mem_zipIdx_iff_getElem?.mpr here, rfl⟩

/-- Candidates with their verdicts, where so many verdicts belong to each. -/
def Validated.ofVerdicts (count : Nat) : List α → List Bool → List (Validated α)
  | [], _ => []
  | candidate :: rest, verdicts =>
      ⟨candidate, (verdicts.take count).map .bool⟩ :: ofVerdicts count rest (verdicts.drop count)

theorem Validated.length_ofVerdicts (count : Nat) (candidates : List α) (verdicts : List Bool) :
    (ofVerdicts count candidates verdicts).length = candidates.length := by
  induction candidates generalizing verdicts with
  | nil => rfl
  | cons candidate rest inductionHypothesis =>
      exact congrArg Nat.succ (inductionHypothesis (verdicts.drop count))

theorem Validated.candidate_mem_of_mem_ofVerdicts {count : Nat} {candidates : List α}
    {verdicts : List Bool} {entry : Validated α}
    (member : entry ∈ ofVerdicts count candidates verdicts) : entry.candidate ∈ candidates := by
  induction candidates generalizing verdicts with
  | nil => cases member
  | cons candidate rest inductionHypothesis =>
      rcases List.mem_cons.mp member with rfl | later
      · exact List.mem_cons_self
      · exact List.mem_cons_of_mem candidate (inductionHypothesis later)

theorem verdicts_eq_each (constraints : List (Constraint σ α)) (candidate : α) :
    Constraint.verdicts candidate constraints =
      Action.each Question.ask (Question.about constraints candidate) := by
  have each : Constraint.verdicts candidate constraints =
      Action.each (fun constraint : Constraint σ α => constraint.verdict candidate)
        constraints := by
    induction constraints with
    | nil => rfl
    | cons constraint rest inductionHypothesis =>
        rw [Constraint.verdicts, Action.each_cons, inductionHypothesis]
  have numbered : Action.each (fun constraint : Constraint σ α => constraint.verdict candidate)
      (constraints.zipIdx.map Prod.fst) =
        Action.each Question.ask (Question.about constraints candidate) := by
    rw [Question.about, Action.each_map, Action.each_map]
    rfl
  rw [each, ← numbered, List.zipIdx_map_fst]

/-- To validate a batch is to ask one question after the other. -/
theorem each_validate_apply (constraints : List (Constraint σ α)) (candidates : List α)
    (before : σ) :
    Action.each (Constraint.validate constraints) candidates before =
      match Action.each Question.ask (candidates.flatMap (Question.about constraints)) before with
      | .ok verdicts after =>
          .ok (Validated.ofVerdicts constraints.length candidates verdicts) after
      | .error fault after => .error fault after := by
  induction candidates generalizing before with
  | nil => rfl
  | cons candidate rest inductionHypothesis =>
      rw [List.flatMap_cons, Action.each_cons, Action.each_append]
      simp only [Constraint.validate, verdicts_eq_each, Action.bind_apply, Action.pure_apply]
      cases first : Action.each Question.ask (Question.about constraints candidate) before with
      | error fault after => rfl
      | ok verdicts middle =>
          -- There is one verdict for each constraint, so the next candidate's come after these.
          have count : verdicts.length = constraints.length := by
            rw [(Action.each_eq_ok_iff.mp first).length_eq, Question.about, List.length_map,
              List.length_zipIdx]
          simp only [inductionHypothesis]
          cases Action.each Question.ask (rest.flatMap (Question.about constraints)) middle with
          | error fault after => rfl
          | ok others after =>
              simp only [Validated.ofVerdicts, List.take_left' count, List.drop_left' count]

theorem Action.noting_apply {κ β : Type} (call : κ) (action : Action σ β) (calls : List κ)
    (before : σ) :
    action.noting call (calls, before) =
      match action before with
      | .ok result after => .ok result (calls ++ [call], after)
      | .error fault after => .error fault (calls ++ [call], after) := by
  cases ran : action before with
  | ok result after => simp only [noting, onSecond, ran]
  | error fault after => simp only [noting, onSecond, ran]

namespace Sampler

/-! ## Courses -/

/-- So many draws return one after the other. -/
def Draws (sampler : Sampler σ α) (count : Nat) :
    Generator × σ → List α → Generator × σ → Prop :=
  Action.Returns (fun _ => sampler.problem.draw) (List.replicate count ())

/-- The candidates of a batch with all verdicts on them. -/
def judged (sampler : Sampler σ α) (candidates : List α) (verdicts : List Bool) :
    List (Validated α) :=
  Validated.ofVerdicts sampler.constraints.length candidates verdicts

/-- How a pass with so many samples can go, with the calls that it makes and with what comes of
it. -/
inductive Course (sampler : Sampler σ α) (count : Nat) (worker : Option Int) (keep : Bool)
    (start : Generator × σ) :
    List (Call α) → EStateM.Result Fault (Generator × σ) (Outcome α) → Prop where
  /-- After some draws one fails. -/
  | drawFails {earlier : Nat} {drawn : List α} {middle last : Generator × σ} {fault : Fault} :
      earlier < count →
      sampler.Draws earlier start drawn middle →
      sampler.problem.draw middle = .error fault last →
      Course sampler count worker keep start (List.replicate (earlier + 1) .draw)
        (.error (fault.leaving .generating worker) last)
  /-- After all draws and some questions a question fails. -/
  | askFails {candidates : List α} {generator : Generator} {drawn middle last : σ}
      {asked later : List (Question σ α)} {question : Question σ α} {verdicts : List Bool}
      {fault : Fault} :
      sampler.Draws count start candidates (generator, drawn) →
      sampler.questions candidates = asked ++ question :: later →
      Action.Returns Question.ask asked drawn verdicts middle →
      question.constraint.predicate question.candidate middle = .error fault last →
      Course sampler count worker keep start
        (List.replicate count .draw ++ (asked ++ [question]).map Question.call)
        (.error (fault.ofPredicate.leaving .validating worker) (generator, last))
  /-- After all draws and all questions the selection fails. -/
  | selectFails {candidates : List α} {generator : Generator} {drawn middle last : σ}
      {verdicts : List Bool} {fault : Fault} :
      count ≠ 0 →
      sampler.Draws count start candidates (generator, drawn) →
      Action.Returns Question.ask (sampler.questions candidates) drawn verdicts middle →
      sampler.problem.select ((sampler.judged candidates verdicts).map some) middle =
        .error fault last →
      Course sampler count worker keep start
        (List.replicate count .draw ++ (sampler.questions candidates).map Question.call ++
          [.select ((sampler.judged candidates verdicts).map some)])
        (.error (fault.leaving .selecting worker) (generator, last))
  /-- Every call returns. -/
  | selects {candidates : List α} {generator : Generator} {drawn middle last : σ}
      {verdicts : List Bool} {best : Option (Validated α)} :
      count ≠ 0 →
      sampler.Draws count start candidates (generator, drawn) →
      Action.Returns Question.ask (sampler.questions candidates) drawn verdicts middle →
      sampler.problem.select ((sampler.judged candidates verdicts).map some) middle =
        .ok best last →
      Course sampler count worker keep start
        (List.replicate count .draw ++ (sampler.questions candidates).map Question.call ++
          [.select ((sampler.judged candidates verdicts).map some)])
        (.ok ⟨worker, best, if keep then sampler.judged candidates verdicts else []⟩
          (generator, last))
  /-- Without samples nothing is called. -/
  | empty : count = 0 → Course sampler count worker keep start [] (.ok ⟨worker, none, []⟩ start)

/-! ## Passes have courses -/

theorem inPhase_apply {τ β : Type} (phase : Phase) (worker : Option Int) (action : Action τ β)
    (before : τ) :
    action.inPhase phase worker before =
      match action before with
      | .ok result after => .ok result after
      | .error fault after => .error (fault.leaving phase worker) after :=
  rfl

/-- A pass goes from phase to phase as long as the phases return. -/
theorem pass_apply (sampler : Sampler σ α) (count : Nat) (worker : Option Int) (keep : Bool)
    (start : Generator × σ) :
    sampler.pass (.int count) worker keep start =
      match Action.each (fun _ => sampler.problem.draw) (List.replicate count ()) start with
      | .error fault last => .error (fault.leaving .generating worker) last
      | .ok candidates (generator, drawn) =>
          match Action.each Question.ask (sampler.questions candidates) drawn with
          | .error fault last => .error (fault.leaving .validating worker) (generator, last)
          | .ok verdicts middle =>
              match sampler.best ((sampler.judged candidates verdicts).map some) worker middle with
              | .error fault last => .error fault (generator, last)
              | .ok best last =>
                  .ok ⟨worker, best, if keep then sampler.judged candidates verdicts else []⟩
                    (generator, last) := by
  have drawn : sampler.draw (.int count) worker =
      (Action.each (fun _ => sampler.problem.draw) (List.replicate count ())).inPhase
        .generating worker := by
    rw [draw, Value.toCount_natCast, Action.ofExcept_ok, pure_bind, Action.repeated_eq_each]
  rw [pass, Action.bind_apply, drawn, inPhase_apply]
  cases Action.each (fun _ => sampler.problem.draw) (List.replicate count ()) start with
  | error fault last => rfl
  | ok candidates middle =>
      obtain ⟨generator, drawn⟩ := middle
      simp only [Action.bind_apply, Action.onSecond, validate, inPhase_apply, each_validate_apply,
        questions]
      cases Action.each Question.ask
          (candidates.flatMap (Question.about sampler.constraints)) drawn with
      | error fault last => rfl
      | ok verdicts middle =>
          simp only [judged]
          cases sampler.best ((Validated.ofVerdicts sampler.constraints.length candidates
              verdicts).map some) worker middle with
          | error fault last => rfl
          | ok best last => rfl

/-- A pass returns exactly if its draws, its questions and its selection return. -/
theorem pass_eq_ok_iff {sampler : Sampler σ α} {count : Nat} {worker : Option Int}
    {keep : Bool} {start last : Generator × σ} {outcome : Outcome α} :
    sampler.pass (.int count) worker keep start = .ok outcome last ↔
      ∃ candidates generator drawn verdicts middle best after,
        sampler.Draws count start candidates (generator, drawn) ∧
          Action.each Question.ask (sampler.questions candidates) drawn = .ok verdicts middle ∧
          sampler.best ((sampler.judged candidates verdicts).map some) worker middle =
            .ok best after ∧
          outcome = ⟨worker, best, if keep then sampler.judged candidates verdicts else []⟩ ∧
          last = (generator, after) := by
  rw [pass_apply]
  constructor
  · intro returned
    split at returned
    · cases returned
    · rename_i candidates generator drawn draws
      split at returned
      · cases returned
      · rename_i verdicts middle asked
        split at returned
        · cases returned
        · rename_i best after selected
          cases returned
          exact ⟨candidates, generator, drawn, verdicts, middle, best, after,
            Action.each_eq_ok_iff.mp draws, asked, selected, rfl, rfl⟩
  · rintro ⟨candidates, generator, drawn, verdicts, middle, best, after, draws, asked, selected,
      rfl, rfl⟩
    rw [Action.each_eq_ok_iff.mpr draws]
    simp only [asked, selected]

theorem best_eq (sampler : Sampler σ α) {batch : List (Validated α)} (some : batch ≠ [])
    (worker : Option Int) :
    sampler.best (batch.map .some) worker =
      (sampler.problem.select (batch.map .some)).inPhase .selecting worker := by
  have filled : (batch.map Option.some).isEmpty = false := by
    rw [List.isEmpty_map]
    exact List.isEmpty_eq_false_iff.mpr some
  rw [best, filled]
  rfl

theorem Draws.length_eq {sampler : Sampler σ α} {count : Nat} {start last : Generator × σ}
    {candidates : List α} (draws : sampler.Draws count start candidates last) :
    candidates.length = count :=
  (Action.Returns.length_eq draws).trans List.length_replicate

theorem length_judged {sampler : Sampler σ α} {count : Nat} {start last : Generator × σ}
    {candidates : List α} (draws : sampler.Draws count start candidates last)
    (verdicts : List Bool) : (sampler.judged candidates verdicts).length = count :=
  (Validated.length_ofVerdicts _ candidates verdicts).trans draws.length_eq

theorem judged_ne_nil {sampler : Sampler σ α} {count : Nat} {start last : Generator × σ}
    {candidates : List α} (draws : sampler.Draws count start candidates last)
    (positive : count ≠ 0) (verdicts : List Bool) : sampler.judged candidates verdicts ≠ [] := by
  intro nothing
  have length := length_judged draws verdicts
  rw [nothing] at length
  exact positive length.symm

theorem Course.pass_eq {sampler : Sampler σ α} {count : Nat} {worker : Option Int} {keep : Bool}
    {start : Generator × σ} {calls : List (Call α)}
    {result : EStateM.Result Fault (Generator × σ) (Outcome α)}
    (course : sampler.Course count worker keep start calls result) :
    sampler.pass (.int count) worker keep start = result := by
  rw [pass_apply]
  cases course with
  | @drawFails earlier _ _ _ _ fewer draws fails =>
      have split : List.replicate count () =
          List.replicate earlier () ++ () :: List.replicate (count - earlier - 1) () := by
        rw [← List.replicate_succ, List.replicate_append_replicate]
        congr 1
        omega
      rw [Action.each_eq_error_iff.mpr ⟨_, (), ⟨_, split⟩, _, _, draws, fails⟩]
  | askFails draws split asked fails =>
      rw [Action.each_eq_ok_iff.mpr draws]
      have failed := Question.ask_eq_error_iff.mpr ⟨_, fails, rfl⟩
      simp only [Action.each_eq_error_iff.mpr ⟨_, _, ⟨_, split⟩, _, _, asked, failed⟩]
  | selectFails positive draws asked fails =>
      rw [Action.each_eq_ok_iff.mpr draws]
      simp only [Action.each_eq_ok_iff.mpr asked, best_eq sampler (judged_ne_nil draws positive _),
        inPhase_apply, fails]
  | selects positive draws asked selected =>
      rw [Action.each_eq_ok_iff.mpr draws]
      simp only [Action.each_eq_ok_iff.mpr asked, best_eq sampler (judged_ne_nil draws positive _),
        inPhase_apply, selected]
  | empty none =>
      subst none
      cases keep with
      | false => rfl
      | true => rfl

theorem exists_course (sampler : Sampler σ α) (count : Nat) (worker : Option Int) (keep : Bool)
    (start : Generator × σ) :
    ∃ calls result, sampler.Course count worker keep start calls result := by
  cases draws : Action.each (fun _ => sampler.problem.draw) (List.replicate count ()) start with
  | error fault last =>
      obtain ⟨done, next, ⟨later, split⟩, results, middle, returns, fails⟩ :=
        Action.each_eq_error_iff.mp draws
      have fewer : done.length < count := by
        have length := congrArg List.length split
        rw [List.length_replicate, List.length_append, List.length_cons] at length
        omega
      have drawn : done = List.replicate done.length () :=
        List.eq_replicate_of_mem fun _ _ => rfl
      rw [drawn] at returns
      exact ⟨_, _, Course.drawFails fewer returns fails⟩
  | ok candidates middle =>
      obtain ⟨generator, drawn⟩ := middle
      have drawsAll : sampler.Draws count start candidates (generator, drawn) :=
        Action.each_eq_ok_iff.mp draws
      by_cases none : count = 0
      · exact ⟨_, _, Course.empty none⟩
      · cases asks : Action.each Question.ask (sampler.questions candidates) drawn with
        | error fault last =>
            obtain ⟨asked, question, ⟨later, split⟩, verdicts, middle, returns, fails⟩ :=
              Action.each_eq_error_iff.mp asks
            obtain ⟨raised, predicate, -⟩ := Question.ask_eq_error_iff.mp fails
            exact ⟨_, _, Course.askFails drawsAll split returns predicate⟩
        | ok verdicts middle =>
            have asksAll := Action.each_eq_ok_iff.mp asks
            cases selection : sampler.problem.select
                ((sampler.judged candidates verdicts).map some) middle with
            | error fault last => exact ⟨_, _, Course.selectFails none drawsAll asksAll selection⟩
            | ok best last => exact ⟨_, _, Course.selects none drawsAll asksAll selection⟩

/-! ## Calls are noted -/

/-- A result with the calls that have been noted. -/
def noted {β : Type} (calls : List (Call α)) :
    EStateM.Result Fault (Generator × σ) β →
      EStateM.Result Fault (Generator × List (Call α) × σ) β
  | .ok result (generator, after) => .ok result (generator, calls, after)
  | .error fault (generator, after) => .error fault (generator, calls, after)

/-- A question to a constraint whose calls are noted. -/
def recordedQuestion (question : Question σ α) : Question (List (Call α) × σ) α :=
  ⟨recordedConstraint question.constraint question.position, question.position,
    question.candidate⟩

theorem recorded_draw (sampler : Sampler σ α) (generator : Generator) (calls : List (Call α))
    (before : σ) :
    sampler.recorded.problem.draw (generator, calls, before) =
      noted (calls ++ [.draw]) (sampler.problem.draw (generator, before)) := by
  simp only [recorded]
  cases sampler.problem.draw (generator, before) with
  | ok candidate last => rfl
  | error fault last => rfl

theorem recorded_ask (question : Question σ α) (calls : List (Call α)) {before after : σ}
    {verdict : Bool} (asked : question.ask before = .ok verdict after) :
    (recordedQuestion question).ask (calls, before) =
      .ok verdict (calls ++ [question.call], after) := by
  have noted := Action.noting_apply question.call
    (question.constraint.predicate question.candidate) calls before
  simp only [Question.ask, Constraint.verdict, recordedQuestion, recordedConstraint] at asked ⊢
  cases ran : question.constraint.predicate question.candidate before with
  | ok value last =>
      rw [ran] at asked noted
      cases asked
      rw [Question.call] at noted
      simp only [noted]
      rfl
  | error fault last =>
      rw [ran] at asked
      cases asked

/-- The questions of constraints whose calls are noted are those of the constraints, noted. -/
theorem about_recorded (constraints : List (Constraint σ α)) (candidate : α) :
    Question.about (constraints.zipIdx.map fun (constraint, position) =>
        recordedConstraint constraint position) candidate =
      (Question.about constraints candidate).map recordedQuestion := by
  have numbered : ∀ (constraints : List (Constraint σ α)) (position : Nat),
      ((constraints.zipIdx position).map fun (constraint, position) =>
          recordedConstraint constraint position).zipIdx position =
        (constraints.zipIdx position).map fun (constraint, position) =>
          (recordedConstraint constraint position, position) := by
    intro constraints
    induction constraints with
    | nil => exact fun position => rfl
    | cons constraint rest inductionHypothesis =>
        intro position
        simp only [List.zipIdx_cons, List.map_cons, inductionHypothesis]
  simp only [Question.about, numbered, List.map_map]
  rfl

theorem recorded_questions (sampler : Sampler σ α) (candidates : List α) :
    sampler.recorded.questions candidates =
      (sampler.questions candidates).map recordedQuestion := by
  rw [questions, questions, List.map_flatMap]
  exact congrArg candidates.flatMap (funext (about_recorded sampler.constraints))

theorem recorded_judged (sampler : Sampler σ α) (candidates : List α) (verdicts : List Bool) :
    sampler.recorded.judged candidates verdicts = sampler.judged candidates verdicts := by
  simp only [judged, recorded, List.length_map, List.length_zipIdx]

theorem Draws.recorded {sampler : Sampler σ α} {count : Nat} {generator moved : Generator}
    {before after : σ} {candidates : List α}
    (draws : sampler.Draws count (generator, before) candidates (moved, after))
    (calls : List (Call α)) :
    sampler.recorded.Draws count (generator, calls, before) candidates
      (moved, calls ++ List.replicate count .draw, after) := by
  -- The calls stand between the generator and the surroundings.
  have notes : ∀ (_ : Unit) (calls : List (Call α)) (start : Generator × σ) (candidate : α)
      (last : Generator × σ), sampler.problem.draw start = .ok candidate last →
      sampler.recorded.problem.draw (start.1, calls, start.2) =
        .ok candidate (last.1, calls ++ [.draw], last.2) := by
    intro _ calls start candidate last ran
    rw [recorded_draw, ran]
    rfl
  have noted := Action.Returns.noted
    (fun calls (state : Generator × σ) => (state.1, calls, state.2)) (fun _ => Call.draw)
    notes draws calls
  rw [List.map_replicate] at noted
  exact noted

theorem recorded_returns {questions : List (Question σ α)} {before after : σ}
    {verdicts : List Bool} (asked : Action.Returns Question.ask questions before verdicts after)
    (calls : List (Call α)) :
    Action.Returns Question.ask (questions.map recordedQuestion) (calls, before) verdicts
      (calls ++ questions.map Question.call, after) := by
  apply Action.Returns.map
  exact Action.Returns.noted Prod.mk Question.call
    (fun question calls _ _ _ ran => recorded_ask question calls ran) asked calls

/-- With its calls noted, a pass goes the same way, and the calls of its course are added to those
noted before. -/
theorem Course.recorded {sampler : Sampler σ α} {count : Nat} {worker : Option Int} {keep : Bool}
    {generator : Generator} {before : σ} {calls : List (Call α)}
    {result : EStateM.Result Fault (Generator × σ) (Outcome α)}
    (course : sampler.Course count worker keep (generator, before) calls result)
    (earlier : List (Call α)) :
    ∃ others, sampler.recorded.Course count worker keep (generator, earlier, before) others
      (noted (earlier ++ calls) result) := by
  cases course with
  | @drawFails drawn candidates middle last fault fewer draws fails =>
      obtain ⟨moved, middle⟩ := middle
      have failed := recorded_draw sampler moved (earlier ++ List.replicate drawn .draw) middle
      rw [fails, List.append_assoc, ← List.replicate_succ'] at failed
      exact ⟨_, Course.drawFails fewer (draws.recorded earlier) failed⟩
  | @askFails candidates moved drawn middle last asked later question verdicts fault draws split
      returns fails =>
      have questions := recorded_questions sampler candidates
      rw [split, List.map_append, List.map_cons] at questions
      have failed := Action.noting_apply question.call
        (question.constraint.predicate question.candidate)
        (earlier ++ List.replicate count .draw ++ asked.map Question.call) middle
      rw [fails] at failed
      have same : earlier ++
          (List.replicate count .draw ++ (asked ++ [question]).map Question.call) =
            earlier ++ List.replicate count .draw ++ asked.map Question.call ++
              [question.call] := by
        rw [List.map_append, List.map_singleton, List.append_assoc, List.append_assoc]
      rw [same]
      exact ⟨_, Course.askFails (draws.recorded earlier) questions
        (recorded_returns returns _) failed⟩
  | @selectFails candidates moved drawn middle last verdicts fault positive draws returns fails =>
      have asked := recorded_returns returns (earlier ++ List.replicate count .draw)
      rw [← recorded_questions] at asked
      have failed := Action.noting_apply
        (Call.select ((sampler.judged candidates verdicts).map some))
        (sampler.problem.select ((sampler.judged candidates verdicts).map some))
        (earlier ++ List.replicate count .draw ++ (sampler.questions candidates).map Question.call)
        middle
      rw [fails, ← recorded_judged] at failed
      rw [← List.append_assoc, ← List.append_assoc, ← recorded_judged]
      exact ⟨_, Course.selectFails positive (draws.recorded earlier) asked failed⟩
  | @selects candidates moved drawn middle last verdicts best positive draws returns selected =>
      have asked := recorded_returns returns (earlier ++ List.replicate count .draw)
      rw [← recorded_questions] at asked
      have noted := Action.noting_apply
        (Call.select ((sampler.judged candidates verdicts).map some))
        (sampler.problem.select ((sampler.judged candidates verdicts).map some))
        (earlier ++ List.replicate count .draw ++ (sampler.questions candidates).map Question.call)
        middle
      rw [selected, ← recorded_judged] at noted
      rw [← List.append_assoc, ← List.append_assoc, ← recorded_judged]
      exact ⟨_, Course.selects positive (draws.recorded earlier) asked noted⟩
  | empty none =>
      rw [List.append_nil]
      exact ⟨_, Course.empty none⟩

theorem Course.passCalls_eq {sampler : Sampler σ α} {count : Nat} {worker : Option Int}
    {keep : Bool} {generator : Generator} {before : σ} {calls : List (Call α)}
    {result : EStateM.Result Fault (Generator × σ) (Outcome α)}
    (course : sampler.Course count worker keep (generator, before) calls result) :
    sampler.passCalls (.int count) worker keep generator before = calls := by
  obtain ⟨others, recorded⟩ := course.recorded []
  rw [passCalls, recorded.pass_eq]
  cases result with
  | ok outcome last => rfl
  | error fault last => rfl

/-! ## No batch is cut short -/

/-- Before anything but draws is called, all candidates are drawn. -/
theorem Course.draws_first {sampler : Sampler σ α} {count : Nat} {worker : Option Int}
    {keep : Bool} {start : Generator × σ} {calls : List (Call α)}
    {result : EStateM.Result Fault (Generator × σ) (Outcome α)}
    (course : sampler.Course count worker keep start calls result) {call : Call α}
    (called : call ∈ calls) (other : call ≠ .draw) : List.replicate count .draw <+: calls := by
  cases course with
  | drawFails fewer draws fails => exact absurd (List.eq_of_mem_replicate called) other
  | askFails draws split returns fails => exact List.prefix_append _ _
  | selectFails positive draws returns fails =>
      rw [List.append_assoc]
      exact List.prefix_append _ _
  | selects positive draws returns selected =>
      rw [List.append_assoc]
      exact List.prefix_append _ _
  | empty none => cases called

theorem not_select_mem_draws_questions {count : Nat} {questions : List (Question σ α)}
    {batch : List (Option (Validated α))} :
    .select batch ∉ List.replicate count Call.draw ++ questions.map Question.call := by
  intro called
  rcases List.mem_append.mp called with drawn | asked
  · cases List.eq_of_mem_replicate drawn
  · obtain ⟨question, _, same⟩ := List.mem_map.mp asked
    cases same

theorem Course.length_of_select {sampler : Sampler σ α} {count : Nat} {worker : Option Int}
    {keep : Bool} {start : Generator × σ} {calls : List (Call α)}
    {result : EStateM.Result Fault (Generator × σ) (Outcome α)}
    (course : sampler.Course count worker keep start calls result)
    {batch : List (Option (Validated α))} (called : .select batch ∈ calls) :
    batch.length = count := by
  have last : ∀ {questions : List (Question σ α)} {selected : List (Option (Validated α))},
      .select batch ∈ List.replicate count .draw ++ questions.map Question.call ++
        [.select selected] → batch = selected := by
    intro questions selected present
    rcases List.mem_append.mp present with earlier | here
    · exact absurd earlier not_select_mem_draws_questions
    · cases List.mem_singleton.mp here
      rfl
  cases course with
  | drawFails fewer draws fails => cases List.eq_of_mem_replicate called
  | askFails draws split returns fails => exact absurd called not_select_mem_draws_questions
  | selectFails positive draws returns fails =>
      rw [last called, List.length_map, length_judged draws]
  | selects positive draws returns selected =>
      rw [last called, List.length_map, length_judged draws]
  | empty none => cases called

theorem Course.length_batch {sampler : Sampler σ α} {count : Nat} {worker : Option Int}
    {start last : Generator × σ} {calls : List (Call α)} {outcome : Outcome α}
    (course : sampler.Course count worker true start calls (.ok outcome last)) :
    outcome.batch.length = count := by
  cases course with
  | selects positive draws returns selected =>
      rw [if_pos rfl]
      exact length_judged draws _
  | empty none => exact none.symm

/-- A pass draws, asks and selects until the first call of the caller's code fails, and that fault
comes out of it, once, with the phase and the worker, or unchanged if it asks for the whole program
to stop.  Nothing is asked before all candidates are drawn, and whatever is selected from or shown
is a whole batch. -/
theorem pass_course (sampler : Sampler σ α) (count : Nat) (worker : Option Int) (keep : Bool)
    (generator : Generator) (before : σ) :
    (∀ calls result, sampler.Course count worker keep (generator, before) calls result ↔
      sampler.passCalls (.int count) worker keep generator before = calls ∧
        sampler.pass (.int count) worker keep (generator, before) = result) ∧
    ((∃ call ∈ sampler.passCalls (.int count) worker keep generator before, call ≠ .draw) →
      List.replicate count .draw <+: sampler.passCalls (.int count) worker keep generator before) ∧
    (∀ batch, .select batch ∈ sampler.passCalls (.int count) worker keep generator before →
      batch.length = count) ∧
    ∀ outcome last, sampler.pass (.int count) worker keep (generator, before) = .ok outcome last →
      keep = true → outcome.batch.length = count := by
  obtain ⟨calls, result, course⟩ := sampler.exists_course count worker keep (generator, before)
  have called := course.passCalls_eq
  rw [called]
  refine ⟨?_, ?_, ?_, ?_⟩
  · intro others another
    constructor
    · intro course
      exact ⟨called.symm.trans course.passCalls_eq, course.pass_eq⟩
    · rintro ⟨rfl, same⟩
      rw [← same, course.pass_eq]
      exact course
  · rintro ⟨call, present, other⟩
    exact course.draws_first present other
  · intro batch present
    exact course.length_of_select present
  · intro outcome last ran kept
    subst kept
    rw [course.pass_eq] at ran
    rw [ran] at course
    exact course.length_batch

theorem pass_course_predicateStopped :
    let sampler : Sampler Unit Nat :=
      { problem := ⟨pure 7, fun _ => pure none⟩
        constraints := [⟨"first", fun _ => pure (.bool true)⟩,
          ⟨"second", fun _ => throw (.raised .stopIteration "")⟩] }
    let generator := Generator.ofSequence (SeedSequence.ofNat 1)
    sampler.passCalls (.int 2) (some 0) true generator () =
        [.draw, .draw, .ask 0 7, .ask 1 7] ∧
      sampler.pass (.int 2) (some 0) true (generator, ()) =
        .error (.phaseFailed (.phase .validating) (some 0) (some .predicateStopped))
          (generator, ()) := by
  intro sampler generator
  have drawn : sampler.Draws 2 (generator, ()) [7, 7] (generator, ()) :=
    Action.Returns.cons rfl (Action.Returns.cons rfl (Action.Returns.nil _))
  have split : sampler.questions [7, 7] =
      [⟨⟨"first", fun _ => pure (.bool true)⟩, 0, 7⟩] ++
        ⟨⟨"second", fun _ => throw (.raised .stopIteration "")⟩, 1, 7⟩ ::
          Question.about sampler.constraints 7 := rfl
  have asked : Action.Returns Question.ask
      [⟨⟨"first", fun _ => pure (.bool true)⟩, 0, 7⟩] () [true] () :=
    Action.Returns.cons rfl (Action.Returns.nil ())
  have course : sampler.Course 2 (some 0) true (generator, ())
      [.draw, .draw, .ask 0 7, .ask 1 7]
      (.error (.phaseFailed (.phase .validating) (some 0) (some .predicateStopped))
        (generator, ())) :=
    Course.askFails drawn split asked rfl
  exact ((sampler.pass_course 2 (some 0) true generator ()).1 _ _).mp course

end Sampler

end RandomSearch
