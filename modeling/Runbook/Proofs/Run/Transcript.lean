import Runbook.Proofs.Run.Record

/-!
# What a phase leaves

A phase adds to the record one result for each call that is no fault, and to the events one stretch
for each call. What it adds is given by its calls and the clock alone, so that neither the results
before it nor whether any are wanted has a part in it, and showing the commands adds one message to
each stretch and nothing else.
-/

namespace Runbook

namespace Call

/-- The message that a step is about to be run. -/
def announcement (call : Call) : Event := .logged .info ("Running step " ++ call.step.identity)

/-- The message that shows the command of a call. -/
def shown (call : Call) : Event := .logged .info (Text.trimString call.step.shell)

/-- A call when no call before it was a fault, and behind it, if it passed, how long it took. -/
def outcome (clock : List Binary64) (n : Nat) (call : Call) : List Event :=
  .called call.step.shell call.reply ::
    if call.passed then
      [.logged .debug ("Step " ++ call.step.identity ++ " finished in " ++
        decimalText (elapsedMs (reading clock (2 * n)) (reading clock (2 * n + 1))) ++ " ms")]
    else []

/-- The events of a call, with or without its command. -/
def events (showCommands : Bool) (clock : List Binary64) (n : Nat) (call : Call) : List Event :=
  call.announcement :: ((if showCommands then [call.shown] else []) ++ call.outcome clock n)

/-- Behind a call that took two readings, the next one takes the two after them. -/
theorem events_drop (showCommands : Bool) (clock : List Binary64) :
    events showCommands (clock.drop 2) = fun n => events showCommands clock (n + 1) := by
  funext n call
  have first : 2 + 2 * n = 2 * (n + 1) := by omega
  have second : 2 + (2 * n + 1) = 2 * (n + 1) + 1 := by omega
  simp only [events, outcome, reading_drop, first, second]

/-- Only the last one of calls that were cut can be a fault, so that each result is of two readings
behind those of the results before it. -/
theorem results_cut (clock : List Binary64) (calls : List Call) :
    results clock (cut calls) =
      ((cut calls).filter fun call => !call.isFaulted).mapIdx (recordAt clock) := by
  induction calls generalizing clock with
  | nil => rfl
  | cons call calls ih =>
      have head : result clock call = recordAt clock 0 call := rfl
      cases passed : call.passed with
      | true =>
          have ended := not_faulted_of_passed passed
          simp [cut_cons, passed, results, readings, ended, ih, List.mapIdx_cons, recordAt_drop, head]
      | false =>
          cases faulted : call.isFaulted <;> simp [cut_cons, passed, results, faulted, head]

end Call

namespace Session

variable {σ : Type}

theorem announce_eq (runner : Runner σ) (showCommands : Bool) (phase : Phase) (step : Step)
    (session : Session σ) :
    session.announce showCommands step =
      { session with
        events := session.events ++ (session.callOf runner phase step).announcement ::
          if showCommands then [(session.callOf runner phase step).shown] else [] } := by
  cases showCommands <;> simp [announce, log, callOf, Call.announcement, Call.shown]

/-- A step adds the events of its call. -/
theorem events_runStep (runner : Runner σ) (showCommands : Bool) (phase : Phase) (step : Step)
    (session : Session σ) :
    (session.runStep runner showCommands phase step).2.events =
      session.events ++ (session.callOf runner phase step).events showCommands session.clock 0 := by
  have announced := session.announce_eq runner showCommands phase step
  cases h : (runner session.runnerState step.shell).1.ending with
  | exited status =>
      by_cases hs : status = 0
      · simp only [runStep, announced, readClock_eq, call, h, finish, note, hs, if_true, log,
          reading_drop]
        simp [Call.events, Call.outcome, callOf, Call.passed, h, hs]
      · simp only [runStep, announced, readClock_eq, call, h, finish, note, hs, if_false, log]
        simp [Call.events, Call.outcome, callOf, Call.passed, h, hs]
  | notStarted reason =>
      simp only [runStep, announced, readClock_eq, call, h, finish, note]
      simp [Call.events, Call.outcome, callOf, Call.passed, h]
  | faulted fault =>
      simp only [runStep, announced, readClock_eq, call, h]
      simp [Call.events, Call.outcome, callOf, Call.passed, h]

/-- Steps in order add the events of their calls up to the first one that does not pass. -/
theorem events_runSteps (runner : Runner σ) (showCommands : Bool) (phase : Phase)
    (steps : List Step) (session : Session σ) :
    (session.runSteps runner showCommands phase steps).2.events =
      session.events ++ ((Call.cut (runner.calls session.runnerState (steps.map (phase, ·)))).mapIdx
        (Call.events showCommands session.clock)).flatten := by
  induction steps generalizing session with
  | nil => simp [runSteps, Runner.calls]
  | cons step steps ih =>
      have first := runs_runStep runner showCommands phase step session
      have added := events_runStep runner showCommands phase step session
      have ending := first.ending
      have state := first.makes.runnerState
      have clock := first.makes.clock
      rw [Call.endingOf_singleton] at ending
      rw [cut_calls_cons, runSteps]
      generalize session.runStep runner showCommands phase step = part at added ending state clock
      obtain ⟨ended, middle⟩ := part
      simp only at added ending state clock
      cases passed : (session.callOf runner phase step).passed with
      | true =>
          obtain rfl : ended = .completed := by rw [ending, Call.ending_of_passed passed]
          have readings : (session.callOf runner phase step).readings = 2 := by
            simp [Call.readings, Call.not_faulted_of_passed passed]
          have behind : middle.clock = session.clock.drop 2 := by
            rw [clock, Call.clockBehind, List.foldl_cons, List.foldl_nil, readings]
          simp only [if_true, ih, added, state, behind, Call.events_drop, List.mapIdx_cons,
            List.flatten_cons, List.append_assoc]
      | false =>
          have stopped : ended ≠ .completed := by
            rw [ending, Ne, Call.ending_eq_completed_iff, passed]
            exact Bool.false_ne_true
          cases ended with
          | completed => exact absurd rfl stopped
          | failed error => simp [added]
          | faulted fault => simp [added]

/-- The message that a phase is about to be run. -/
def heading (phase : Phase) : Event := .logged .info ("Executing phase " ++ phase.name)

/-- A phase leaves what its calls and the clock tell. -/
theorem runPhase_eq (runner : Runner σ) (showCommands : Bool) (plan : Plan) (phase : Phase)
    (session : Session σ) :
    let calls := plan.calls runner [phase] session.runnerState
    session.runPhase runner showCommands plan phase =
      (Call.endingOf calls,
        { runnerState := runner.after session.runnerState calls
          clock := Call.clockBehind session.clock calls
          record := session.record.map
            (· ++ (calls.filter fun call => !call.isFaulted).mapIdx (Call.recordAt session.clock))
          events := session.events ++
            heading phase :: (calls.mapIdx (Call.events showCommands session.clock)).flatten }) := by
  intro calls
  have run := runs_runPhase runner showCommands plan phase session
  have agenda : plan.agenda [phase] = (plan.steps.get phase).map (phase, ·) := by
    simp [Plan.agenda]
  have events : (session.runPhase runner showCommands plan phase).2.events = session.events ++
      heading phase :: (calls.mapIdx (Call.events showCommands session.clock)).flatten := by
    rw [runPhase, events_runSteps]
    simp only [calls, Plan.calls, agenda, log, heading, List.append_assoc, List.singleton_append]
  have record := run.makes.record
  rw [Plan.calls, Call.results_cut] at record
  have ending := run.ending
  have state := run.makes.runnerState
  have clock := run.makes.clock
  generalize session.runPhase runner showCommands plan phase = part at *
  obtain ⟨ended, later⟩ := part
  cases later
  simp only at *
  subst ending state clock record events
  rfl

/-- Runs phases of a plan one after the other, whatever comes of each. -/
def runEach (runner : Runner σ) (plan : Plan) : List (Phase × Bool) → Session σ → Session σ
  | [], session => session
  | (phase, showCommands) :: requests, session =>
    runEach runner plan requests (session.runPhase runner showCommands plan phase).2

/-- What phases add one after the other, each on its own: with an empty record, and with the
runner's state and the clock that the ones before it left. -/
def addedByEach (runner : Runner σ) (plan : Plan) :
    List (Phase × Bool) → σ → List Binary64 → List (List StepResult)
  | [], _, _ => []
  | (phase, showCommands) :: requests, state, clock =>
    let alone := ((start state clock (some [])).runPhase runner showCommands plan phase).2
    alone.record.getD [] :: addedByEach runner plan requests alone.runnerState alone.clock

theorem record_runEach (runner : Runner σ) (plan : Plan) (requests : List (Phase × Bool))
    (session : Session σ) :
    (session.runEach runner plan requests).record =
      session.record.map
        (· ++ (addedByEach runner plan requests session.runnerState session.clock).flatten) := by
  induction requests generalizing session with
  | nil => simp [runEach, addedByEach]
  | cons request requests ih =>
      obtain ⟨phase, showCommands⟩ := request
      rw [runEach, ih, addedByEach]
      simp only [runPhase_eq, start]
      simp [Function.comp_def]

/-- A phase appends one result for each call that is no fault, and otherwise leaves and ends as
without a record. Its events hold one message more for each call if commands are shown, and are
else the same. So phases that share a record append one after the other what each appends alone. -/
theorem runPhase_appends (runner : Runner σ) (plan : Plan) (phase : Phase) (state : σ)
    (clock : List Binary64) :
    let calls := plan.calls runner [phase] state
    let added := (calls.filter fun call => !call.isFaulted).mapIdx (Call.recordAt clock)
    let run (showCommands : Bool) (record : Option (List StepResult)) :=
      (start state clock record).runPhase runner showCommands plan phase
    (∀ showCommands, (run showCommands none).2.calls = calls.map Call.exchange) ∧
      (∀ showCommands record, run showCommands record =
        ((run showCommands none).1,
          { (run showCommands none).2 with record := record.map (· ++ added) })) ∧
      (run true none).2.events = heading phase :: (calls.mapIdx fun n call =>
        call.announcement :: call.shown :: call.outcome clock n).flatten ∧
      run false none = ((run true none).1,
        { (run true none).2 with
          events := heading phase :: (calls.mapIdx fun n call =>
            call.announcement :: call.outcome clock n).flatten }) ∧
      ∀ (requests : List (Phase × Bool)) (record : List StepResult),
        ((start state clock (some record)).runEach runner plan requests).record =
          some (record ++ (addedByEach runner plan requests state clock).flatten) := by
  intro calls added run
  have exact (showCommands : Bool) (record : Option (List StepResult)) :=
    runPhase_eq runner showCommands plan phase (start state clock record)
  refine ⟨?_, ?_, ?_, ?_, ?_⟩
  · intro showCommands
    have made := (runs_runPhase runner showCommands plan phase (start state clock none)).makes
    exact made.calls_eq
  · intro showCommands record
    simp only [run, exact]
    rfl
  · simp only [run, exact]
    rfl
  · simp only [run, exact]
    rfl
  · intro requests record
    exact record_runEach runner plan requests (start state clock (some record))

end Session

end Runbook
