import Runbook.Host.Basic

/-!
# Tasks

A task is what a process still has to do: a step that may change the system, a pause until the
system is ready for the next step, or the start of another process. Processes take turns when they
pause; the clock moves on only when all of them do.
-/

namespace Runbook.Host

/-- What a process has still to do. -/
inductive Task where
  | ended
  | step (run : State → State × Task)
  | pause (ready : State → Bool) (run : State → State × Task)
  | spawn (number : Nat) (child : Unit → Task) (run : State → State × Task)

/-- A process that waits for its turn. -/
structure Paused where
  number : Nat
  ready : State → Bool
  run : State → State × Task

/-- The first waiting process that can go on, and the others. -/
def pickReady? (state : State) : List Paused → Option (Paused × List Paused)
  | [] => none
  | paused :: others =>
    if paused.ready state then some (paused, others)
    else (pickReady? state others).map fun (found, rest) => (found, paused :: rest)

/-- The next time at which a sleeping process wakes. -/
def State.nextWake? (state : State) : Option Nat :=
  (state.processes.filterMap fun entry => entry.2.wakes).foldl
    (fun least time => some (least.elim time (min time))) none

/-- Wakes the processes whose time has come. -/
def State.wakeAt (state : State) (time : Nat) : State :=
  { state with
    clock := max state.clock time
    processes := state.processes.map fun (number, process) =>
      (number,
        if process.wakes.any (· ≤ time) then { process with wakes := none } else process) }

/-- Runs processes: the present one until it pauses or ends, then the first of the others that is
ready. The clock moves on to the next waking when none is. -/
def runTasks (fuel : Nat) (state : State) (current : Option (Nat × Task))
    (queue : List Paused) : State :=
  match fuel with
  | 0 => state
  | fuel + 1 =>
    match current with
    | some (number, task) =>
      if state.isOver number then runTasks fuel state none queue
      else
        match task with
        | .ended => runTasks fuel state none queue
        | .step run =>
          let (state, task) := run state
          runTasks fuel state (some (number, task)) queue
        | .pause ready run => runTasks fuel state none (queue ++ [⟨number, ready, run⟩])
        | .spawn child body run =>
          let (state, task) := run state
          let start : Paused := ⟨child, fun _ => true, fun state => (state, body ())⟩
          runTasks fuel state (some (number, task)) (queue ++ [start])
    | none =>
      let queue := queue.filter fun paused => !state.isOver paused.number
      match pickReady? state queue with
      | some (paused, others) =>
        let (state, task) := paused.run state
        runTasks fuel state (some (paused.number, task)) others
      | none =>
        match queue, state.nextWake? with
        | _ :: _, some time => runTasks fuel (state.wakeAt time) none queue
        | _, _ => state

end Runbook.Host
