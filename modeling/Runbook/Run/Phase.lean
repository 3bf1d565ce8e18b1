import Runbook.Run.Session
import Runbook.Text.Blank

/-!
# Running a phase

The steps of a phase run in order up to the first one that does not end with status zero. Every
step that ended or could not be started is recorded; a fault is not. The clock is read before a
step and, unless there was a fault, after it.
-/

namespace Runbook

/-- In what way a step failed. -/
inductive StepFailure where
  | exited (status : Int)
  | notStarted (reason : String)
  deriving DecidableEq, Repr

namespace StepFailure

/-- The exit code of a failed step; a step that was not started has none. -/
def exitCode : StepFailure → Option Int
  | exited status => some status
  | notStarted _ => none

/-- What is said of a failure: the reason if there is one, or else the exit status. -/
def detail : StepFailure → String
  | exited status => "exit status " ++ decimalText status
  | notStarted reason => if reason.isEmpty then "exit status None" else reason

end StepFailure

/-- The failure of a step of a phase. -/
structure StepError where
  phase : Phase
  step : Step
  failure : StepFailure
  deriving DecidableEq, Repr

/-- The wording of a failed step. -/
def StepError.message (error : StepError) : String :=
  "Could not finish step " ++ error.step.identity ++ " in phase " ++ error.phase.name ++ " ("
    ++ error.failure.detail ++ ")"

/-- How the steps of a phase ended. -/
inductive PhaseEnding where
  | completed
  | failed (error : StepError)
  | faulted (fault : Fault)
  deriving DecidableEq, Repr

namespace Session

variable {σ : Type}

/-- The messages before a step is run. -/
def announce (showCommands : Bool) (step : Step) (session : Session σ) : Session σ :=
  let session := session.log .info ("Running step " ++ step.identity)
  if showCommands then session.log .info (Text.trimString step.shell) else session

/-- Records a step that has just ended, and says how long it took. -/
def finish (phase : Phase) (step : Step) (exitCode : Option Int) (started : Binary64)
    (session : Session σ) : Int × Session σ :=
  let (ended, session) := session.readClock
  let duration := elapsedMs started ended
  (duration, session.note ⟨phase, step.identity, exitCode, duration⟩)

/-- Runs one step. -/
def runStep (runner : Runner σ) (showCommands : Bool) (phase : Phase) (step : Step)
    (session : Session σ) : PhaseEnding × Session σ :=
  let session := session.announce showCommands step
  let (started, session) := session.readClock
  let (ending, session) := session.call runner step.shell
  match ending with
  | .faulted fault => (.faulted fault, session)
  | .notStarted reason =>
    let (_, session) := session.finish phase step none started
    (.failed ⟨phase, step, .notStarted reason⟩, session)
  | .exited status =>
    let (duration, session) := session.finish phase step (some status) started
    if status = 0 then
      (.completed,
        session.log .debug
          ("Step " ++ step.identity ++ " finished in " ++ decimalText duration ++ " ms"))
    else (.failed ⟨phase, step, .exited status⟩, session)

/-- Runs steps in order up to the first one that does not complete. -/
def runSteps (runner : Runner σ) (showCommands : Bool) (phase : Phase) :
    List Step → Session σ → PhaseEnding × Session σ
  | [], session => (.completed, session)
  | step :: steps, session =>
    match session.runStep runner showCommands phase step with
    | (.completed, session) => runSteps runner showCommands phase steps session
    | stopped => stopped

/-- Runs the steps of a phase of a plan. -/
def runPhase (runner : Runner σ) (showCommands : Bool) (plan : Plan) (phase : Phase)
    (session : Session σ) : PhaseEnding × Session σ :=
  (session.log .info ("Executing phase " ++ phase.name)).runSteps runner showCommands phase
    (plan.steps.get phase)

end Session

end Runbook
