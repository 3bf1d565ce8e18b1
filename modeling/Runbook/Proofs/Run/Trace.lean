import Runbook.Proofs.Run.Call

/-!
# What calls leave in a session

A session that makes calls goes on with the runner's state behind them, with the clock behind the
readings that they take, with their results at the end of its record, and with the calls among its
later events. Each function that runs steps is described by the calls it makes and by its ending.
-/

namespace Runbook

/-- The call that an event is, with its reply. -/
def Event.call? : Event → Option (String × Reply)
  | .called command reply => some (command, reply)
  | .logged _ _ => none

/-- The commands that were run in a session with the replies to them, in order. -/
def Session.calls {σ : Type} (session : Session σ) : List (String × Reply) :=
  session.events.filterMap Event.call?

/-- The reading of a clock at a position; behind the last one it stands at zero. -/
def reading (clock : List Binary64) (n : Nat) : Binary64 := clock.getD n (.zero false)

theorem reading_drop (clock : List Binary64) (k n : Nat) :
    reading (clock.drop k) n = reading clock (k + n) := by
  simp [reading, List.getD_eq_getElem?_getD]

namespace Call

/-- The command of a call with the reply to it. -/
def exchange (call : Call) : String × Reply := (call.step.shell, call.reply)

/-- The exit code of a call, if its command was started and ended. -/
def exitCode? (call : Call) : Option Int :=
  match call.reply.ending with
  | .exited status => some status
  | .notStarted _ | .faulted _ => none

/-- Whether a call met an error that the run is not prepared for. -/
def isFaulted (call : Call) : Bool :=
  match call.reply.ending with
  | .faulted _ => true
  | .exited _ | .notStarted _ => false

/-- The clock readings that a call takes: there is none behind a fault. -/
def readings (call : Call) : Nat := if call.isFaulted then 1 else 2

/-- The result of a call that took the next two readings of a clock. -/
def result (clock : List Binary64) (call : Call) : StepResult :=
  ⟨call.phase, call.step.identity, call.exitCode?, elapsedMs (reading clock 0) (reading clock 1)⟩

/-- The clock behind calls. -/
def clockBehind (clock : List Binary64) (calls : List Call) : List Binary64 :=
  calls.foldl (fun clock call => clock.drop call.readings) clock

/-- The results of calls in turn; a fault leaves none. -/
def results : List Binary64 → List Call → List StepResult
  | _, [] => []
  | clock, call :: calls =>
    (if call.isFaulted then [] else [call.result clock]) ++
      results (clock.drop call.readings) calls

theorem results_append (clock : List Binary64) (calls later : List Call) :
    results clock (calls ++ later) =
      results clock calls ++ results (clockBehind clock calls) later := by
  induction calls generalizing clock with
  | nil => rfl
  | cons call calls ih => simp [results, clockBehind, ih]

end Call

namespace Session

variable {σ : Type}

/-- A session goes on to a later one by making calls. -/
structure Makes (runner : Runner σ) (session : Session σ) (calls : List Call)
    (later : Session σ) : Prop where
  runnerState : later.runnerState = runner.after session.runnerState calls
  clock : later.clock = Call.clockBehind session.clock calls
  record : later.record = session.record.map (· ++ Call.results session.clock calls)
  events : ∃ added, later.events = session.events ++ added ∧
    added.filterMap Event.call? = calls.map Call.exchange

variable {runner : Runner σ} {session middle later : Session σ} {calls behind : List Call}

theorem Makes.trans (first : Makes runner session calls middle)
    (second : Makes runner middle behind later) :
    Makes runner session (calls ++ behind) later := by
  obtain ⟨before, hb, hbc⟩ := first.events
  obtain ⟨added, ha, hac⟩ := second.events
  constructor
  · rw [second.runnerState, first.runnerState, Runner.after_append]
  · rw [second.clock, first.clock, Call.clockBehind, Call.clockBehind, Call.clockBehind,
      List.foldl_append]
  · rw [second.record, first.record, first.clock, Option.map_map]
    congr 1
    funext results
    simp [Call.results_append]
  · exact ⟨before ++ added, by rw [ha, hb, List.append_assoc], by
      rw [List.filterMap_append, hbc, hac, List.map_append]⟩

theorem Makes.refl (runner : Runner σ) (session : Session σ) : Makes runner session [] session :=
  ⟨rfl, rfl, by simp [Call.results], [], by simp, rfl⟩

/-- Messages are no calls. -/
theorem Makes.log (h : Makes runner session calls later) (level : Level) (message : String) :
    Makes runner session calls (later.log level message) := by
  obtain ⟨added, ha, hc⟩ := h.events
  refine ⟨h.runnerState, h.clock, h.record, added ++ [.logged level message], ?_, ?_⟩
  · simp [Session.log, ha]
  · simp [hc, Event.call?]

theorem makes_announce (runner : Runner σ) (session : Session σ) (showCommands : Bool)
    (step : Step) : Makes runner session [] (session.announce showCommands step) := by
  unfold announce
  cases showCommands with
  | false => exact (Makes.refl runner session).log ..
  | true => exact ((Makes.refl runner session).log ..).log ..

theorem Makes.calls_eq (h : Makes runner session calls later) :
    later.calls = session.calls ++ calls.map Call.exchange := by
  obtain ⟨added, ha, hc⟩ := h.events
  rw [Session.calls, ha, List.filterMap_append, hc]
  rfl

/-- The call that a step comes to when the runner is in a given state. -/
def callOf (runner : Runner σ) (phase : Phase) (step : Step) (session : Session σ) : Call :=
  ⟨phase, step, (runner session.runnerState step.shell).1⟩

/-- The first step makes its call, and the others make theirs if it passed. -/
theorem cut_calls_cons (runner : Runner σ) (phase : Phase) (step : Step) (steps : List Step)
    (session : Session σ) :
    Call.cut (runner.calls session.runnerState ((step :: steps).map (phase, ·))) =
      session.callOf runner phase step ::
        if (session.callOf runner phase step).passed then
          Call.cut (runner.calls (runner.after session.runnerState
            [session.callOf runner phase step]) (steps.map (phase, ·)))
        else [] := Call.cut_cons _ _

theorem readClock_eq (session : Session σ) :
    session.readClock = (reading session.clock 0, { session with clock := session.clock.drop 1 }) := by
  cases session with
  | mk runnerState clock record events => cases clock <;> rfl

/-- A call that was tried: the first reading is taken, and nothing is recorded yet. -/
theorem makes_faulted (runner : Runner σ) (phase : Phase) (step : Step) (session : Session σ)
    (h : (session.callOf runner phase step).isFaulted = true) :
    Makes runner session [session.callOf runner phase step]
      (session.readClock.2.call runner step.shell).2 := by
  constructor
  · simp [readClock_eq, call, callOf]
  · simp [readClock_eq, call, Call.clockBehind, Call.readings, h]
  · simp [readClock_eq, call, Call.results, h]
  · exact ⟨[.called step.shell (runner session.runnerState step.shell).1],
      by simp [readClock_eq, call], rfl⟩

/-- A call that was tried and then recorded with the second reading. -/
theorem makes_finish (runner : Runner σ) (phase : Phase) (step : Step) (session : Session σ)
    (h : (session.callOf runner phase step).isFaulted = false) :
    Makes runner session [session.callOf runner phase step]
      ((session.readClock.2.call runner step.shell).2.finish phase step
        (session.callOf runner phase step).exitCode? session.readClock.1).2 := by
  constructor
  · simp [readClock_eq, call, callOf, finish, note]
  · simp [readClock_eq, call, finish, note, Call.clockBehind, Call.readings, h]
  · simp only [Call.results, h]
    simp [readClock_eq, call, finish, note, Call.result, reading, callOf]
  · exact ⟨[.called step.shell (runner session.runnerState step.shell).1],
      by simp [readClock_eq, call, finish, note], rfl⟩

/-- A part of a run that makes calls and ends as they tell. -/
structure Runs (runner : Runner σ) (session : Session σ) (calls : List Call)
    (result : PhaseEnding × Session σ) : Prop where
  ending : result.1 = Call.endingOf calls
  makes : Makes runner session calls result.2

theorem Runs.completed_iff {part : PhaseEnding × Session σ} (h : Runs runner session calls part) :
    part.1 = .completed ↔ calls.all Call.passed = true := by
  rw [h.ending, Call.endingOf_eq_completed_iff, List.all_eq_true]

/-- What follows a part of a run is run if the part completed. -/
theorem Runs.andThen (part : PhaseEnding × Session σ)
    (next : Session σ → PhaseEnding × Session σ) :
    Runs runner session calls part → Runs runner part.2 behind (next part.2) →
      Runs runner session (calls ++ if calls.all Call.passed then behind else [])
        (match part with
          | (.completed, middle) => next middle
          | stopped => stopped) := by
  intro first second
  have hc := first.completed_iff
  have he := first.ending
  obtain ⟨ending, middle⟩ := part
  cases h : calls.all Call.passed with
  | true =>
      obtain rfl : ending = .completed := hc.mpr h
      exact ⟨by simp [Call.endingOf_append, h, second.ending], first.makes.trans second.makes⟩
  | false =>
      cases ending with
      | completed => exact absurd (hc.mp rfl) (by simp [h])
      | failed error => exact ⟨by simpa using he, by simpa using first.makes⟩
      | faulted fault => exact ⟨by simpa using he, by simpa using first.makes⟩

/-- A step makes one call, records it unless it is a fault, and ends as the call says. -/
theorem runs_runStep (runner : Runner σ) (showCommands : Bool) (phase : Phase) (step : Step)
    (session : Session σ) :
    Runs runner session [session.callOf runner phase step]
      (session.runStep runner showCommands phase step) := by
  have announced := makes_announce runner session showCommands step
  have same : (session.announce showCommands step).callOf runner phase step =
      session.callOf runner phase step := by simp [callOf, announced.runnerState]
  rw [← same]
  unfold runStep
  generalize session.announce showCommands step = ready at announced
  have tried : (ready.readClock.2.call runner step.shell).1 =
      (ready.callOf runner phase step).reply.ending := by simp [readClock_eq, call, callOf]
  cases h : (ready.callOf runner phase step).reply.ending with
  | exited status =>
      have hf : (ready.callOf runner phase step).isFaulted = false := by simp [Call.isFaulted, h]
      have hc : (ready.callOf runner phase step).exitCode? = some status := by
        simp [Call.exitCode?, h]
      have made := announced.trans (makes_finish runner phase step ready hf)
      rw [hc] at made
      simp only [tried, h]
      by_cases hs : status = 0
      · rw [if_pos hs]
        exact ⟨by simp [Call.ending, h, hs], made.log ..⟩
      · have failed : (ready.callOf runner phase step).ending =
            .failed ⟨phase, step, .exited status⟩ := by
          rw [Call.ending, h]
          exact if_neg hs
        rw [if_neg hs]
        exact ⟨by simp [failed], made⟩
  | notStarted reason =>
      have hf : (ready.callOf runner phase step).isFaulted = false := by simp [Call.isFaulted, h]
      have hc : (ready.callOf runner phase step).exitCode? = none := by simp [Call.exitCode?, h]
      have made := announced.trans (makes_finish runner phase step ready hf)
      rw [hc] at made
      have failed : (ready.callOf runner phase step).ending =
          .failed ⟨phase, step, .notStarted reason⟩ := by rw [Call.ending, h]; rfl
      simp only [tried, h]
      exact ⟨by simp [failed], made⟩
  | faulted fault =>
      have hf : (ready.callOf runner phase step).isFaulted = true := by simp [Call.isFaulted, h]
      simp only [tried, h]
      exact ⟨by simp [Call.ending, h], announced.trans (makes_faulted runner phase step ready hf)⟩

/-- Steps of a phase make their calls up to the first one that does not pass. -/
theorem runs_runSteps (runner : Runner σ) (showCommands : Bool) (phase : Phase)
    (steps : List Step) (session : Session σ) :
    Runs runner session (Call.cut (runner.calls session.runnerState (steps.map (phase, ·))))
      (session.runSteps runner showCommands phase steps) := by
  induction steps generalizing session with
  | nil => exact ⟨rfl, Makes.refl runner session⟩
  | cons step steps ih =>
      have first := runs_runStep runner showCommands phase step session
      have second := Runs.andThen _ (runSteps runner showCommands phase steps) first (ih _)
      rw [first.makes.runnerState] at second
      simp only [List.singleton_append, List.all_cons, List.all_nil, Bool.and_true] at second
      rw [cut_calls_cons, runSteps]
      exact second

/-- A phase makes the calls of its steps up to the first one that does not pass. -/
theorem runs_runPhase (runner : Runner σ) (showCommands : Bool) (plan : Plan) (phase : Phase)
    (session : Session σ) :
    Runs runner session (plan.calls runner [phase] session.runnerState)
      (session.runPhase runner showCommands plan phase) := by
  have steps := runs_runSteps runner showCommands phase (plan.steps.get phase)
    (session.log .info ("Executing phase " ++ phase.name))
  have agenda : plan.agenda [phase] = (plan.steps.get phase).map (phase, ·) := by
    simp [Plan.agenda]
  rw [Plan.calls, agenda]
  exact ⟨steps.ending, ((Makes.refl runner session).log ..).trans steps.makes⟩

end Session

end Runbook
