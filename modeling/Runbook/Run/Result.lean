import Runbook.Plan.Phase

/-!
# Results of a run

What is recorded of each step that was run, and of a run that reached its cleanup.
-/

namespace Runbook

/-- The record of one step; a step that could not be started has no exit code. -/
structure StepResult where
  phase : Phase
  step : String
  exitCode : Option Int
  durationMs : Int
  deriving DecidableEq, Repr

/-- Whether a step ended with status zero. -/
def StepResult.passed (result : StepResult) : Bool := result.exitCode = some 0

/-- How a run that reached its cleanup ended. -/
inductive Outcome where
  | succeeded
  | failed
  deriving DecidableEq, Repr

namespace Outcome

/-- The name of an outcome. -/
def name : Outcome → String
  | succeeded => "succeeded"
  | failed => "failed"

/-- The outcome with the given name. -/
def ofName? (s : String) : Option Outcome := [succeeded, failed].find? fun o => o.name = s

end Outcome

/-- The result of a run: the phases that were attempted, the steps that were run, and the message
of the failure that the cleanup followed, if there was one. -/
structure RunResult where
  outcome : Outcome
  phasesRun : List Phase
  steps : List StepResult
  failure : Option String
  deriving DecidableEq, Repr

/-- Whether a run succeeded. -/
def RunResult.success (result : RunResult) : Bool := result.outcome = .succeeded

end Runbook
