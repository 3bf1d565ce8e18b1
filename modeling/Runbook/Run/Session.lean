import Runbook.Plan.Basic
import Runbook.Run.Result

/-!
# Sessions

A runner takes the text of a command and its own state, and says how the command ended and what it
wrote. A session is the state of a run: the runner's state, the clock readings to come, the results
recorded so far if any are wanted, and the events in order.
-/

namespace Runbook

/-- An error that a run is not prepared for. -/
inductive Fault where
  | unexpected (message : String)
  | nullCharacter
  deriving DecidableEq, Repr

/-- How a command ended. -/
inductive Ending where
  | exited (status : Int)
  | notStarted (reason : String)
  | faulted (fault : Fault)
  deriving DecidableEq, Repr

/-- How a command ended and what it wrote. -/
structure Reply where
  ending : Ending
  out : String
  err : String
  deriving DecidableEq, Repr

/-- Runs the text of a command. -/
abbrev Runner (σ : Type) := σ → String → Reply × σ

/-- How important a message is. -/
inductive Level where
  | debug
  | info
  | warning
  | error
  | critical
  deriving DecidableEq, Repr

/-- What happens in a run: a command is run, or a message is logged. -/
inductive Event where
  | called (command : String) (reply : Reply)
  | logged (level : Level) (message : String)
  deriving DecidableEq, Repr

/-- The state of a run. -/
structure Session (σ : Type) where
  runnerState : σ
  clock : List Binary64
  record : Option (List StepResult)
  events : List Event

namespace Session

variable {σ : Type}

/-- A session at its start, with the results in `record` already there. -/
def start (runnerState : σ) (clock : List Binary64) (record : Option (List StepResult)) :
    Session σ :=
  ⟨runnerState, clock, record, []⟩

/-- Logs a message. -/
def log (level : Level) (message : String) (session : Session σ) : Session σ :=
  { session with events := session.events ++ [.logged level message] }

/-- Takes the next clock reading; after the last one the clock stands at zero. -/
def readClock (session : Session σ) : Binary64 × Session σ :=
  match session.clock with
  | [] => (.zero false, session)
  | now :: clock => (now, { session with clock })

/-- Runs a command. -/
def call (runner : Runner σ) (command : String) (session : Session σ) : Ending × Session σ :=
  let (reply, runnerState) := runner session.runnerState command
  (reply.ending,
    { session with runnerState, events := session.events ++ [.called command reply] })

/-- Adds a result to the record, if one is kept. -/
def note (result : StepResult) (session : Session σ) : Session σ :=
  { session with record := session.record.map (· ++ [result]) }

end Session

/-- The whole milliseconds between two clock readings in seconds, toward zero. -/
def elapsedMs (started ended : Binary64) : Int :=
  (((ended.sub started).mul (Binary64.ofInt 1000)).truncate?).getD 0

end Runbook
