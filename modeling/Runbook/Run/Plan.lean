import Runbook.Run.Phase

/-!
# Running a plan

A run first checks the required variables, then prepares. Behind a preparation that completed, the
protected phases run up to the first failure, and the cleanup runs whatever came of them. A failed
cleanup outweighs all that was before it, and so does a fault in the cleanup.
-/

namespace Runbook

/-- How a run ended. -/
inductive RunEnding where
  | missing (names : List String)
  | preparationFailed (error : StepError)
  | cleanupFailed (error : StepError)
  | faulted (fault : Fault)
  | completed (result : RunResult)
  deriving DecidableEq, Repr

/-- The wording of missing variables. -/
def missingMessage (names : List String) : String :=
  "Missing the following required environment variables: " ++ ", ".intercalate names

/-- The wording of a failed cleanup. -/
def cleanupMessage (error : StepError) : String :=
  "Failed to clean up the infrastructure: " ++ error.message

namespace Session

variable {σ : Type}

/-- Runs phases in order up to the first one that does not complete; also gives the phases that
were attempted. -/
def runPhases (runner : Runner σ) (showCommands : Bool) (plan : Plan) :
    List Phase → Session σ → PhaseEnding × List Phase × Session σ
  | [], session => (.completed, [], session)
  | phase :: phases, session =>
    match session.runPhase runner showCommands plan phase with
    | (.completed, session) =>
      let (ending, attempted, session) := runPhases runner showCommands plan phases session
      (ending, phase :: attempted, session)
    | (stopped, session) => (stopped, [phase], session)

/-- Logs the failure that a cleanup follows. -/
def report (ending : PhaseEnding) (session : Session σ) : Session σ :=
  match ending with
  | .failed error => session.log .error error.message
  | .completed | .faulted _ => session

/-- Runs the cleanup behind protected phases that ended in the given way. -/
def cleanUp (runner : Runner σ) (showCommands : Bool) (plan : Plan) (ending : PhaseEnding)
    (attempted : List Phase) (session : Session σ) : RunEnding × Session σ :=
  match (session.report ending).runPhase runner showCommands plan .destroyInfrastructure with
  | (.failed error, session) =>
    (.cleanupFailed error, session.log .error "Failed to clean up the infrastructure!")
  | (.faulted fault, session) => (.faulted fault, session)
  | (.completed, session) =>
    let phasesRun := .preInstall :: attempted ++ [.destroyInfrastructure]
    let steps := session.record.getD []
    match ending with
    | .faulted fault => (.faulted fault, session)
    | .failed error => (.completed ⟨.failed, phasesRun, steps, some error.message⟩, session)
    | .completed => (.completed ⟨.succeeded, phasesRun, steps, none⟩, session)

/-- Runs a plan in an environment. -/
def runPlan (runner : Runner σ) (showCommands : Bool) (plan : Plan)
    (environment : List (String × String)) (session : Session σ) : RunEnding × Session σ :=
  match plan.missingVars environment with
  | name :: names => (.missing (name :: names), session)
  | [] =>
    match session.runPhase runner showCommands plan .preInstall with
    | (.failed error, session) => (.preparationFailed error, session)
    | (.faulted fault, session) => (.faulted fault, session)
    | (.completed, session) =>
      let (ending, attempted, session) :=
        session.runPhases runner showCommands plan Phase.protectedPhases
      session.cleanUp runner showCommands plan ending attempted

end Session

end Runbook
