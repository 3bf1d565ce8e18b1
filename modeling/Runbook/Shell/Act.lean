import Runbook.Shell.Machine
import Runbook.Host.Task

/-!
# Acts

An act is what a shell or a command does: it may change the machine, ask the system, wait, and leave
the usual order of commands. Waiting lets other processes take their turns.
-/

namespace Runbook.Shell

open Host (Task State Stream StreamEnd)

/-- A reason to leave the usual order of commands: a fault that a command may get over, the end of
the shell, or a script that takes too long. -/
inductive Departure where
  | fault
  | finish
  | leave
  | exhausted
  deriving DecidableEq, Repr

/-- What comes of an act: its result or a departure, with the machine behind it. -/
abbrev Continuation (α : Type) := Except Departure α → Machine → Task

/-- A change of a machine that may ask its system. -/
def Act (α : Type) : Type := Machine → Continuation α → Task

namespace Act

/-- Does nothing. -/
def give {α : Type} (a : α) : Act α := fun machine next => next (.ok a) machine

/-- Does one thing and then another one. -/
def andThen {α β : Type} (first : Act α) (second : α → Act β) : Act β := fun machine next =>
  first machine fun result machine =>
    match result with
    | .ok a => second a machine next
    | .error departure => next (.error departure) machine

/-- Leaves the usual order. -/
def depart {α : Type} (departure : Departure) : Act α := fun machine next =>
  next (.error departure) machine

/-- Does something else behind a departure. -/
def orElse {α : Type} (first : Act α) (second : Departure → Act α) : Act α := fun machine next =>
  first machine fun result machine =>
    match result with
    | .ok a => next (.ok a) machine
    | .error departure => second departure machine next

instance : Monad Act where
  pure := give
  bind := andThen

instance : MonadStateOf Machine Act where
  get := fun machine next => next (.ok machine) machine
  set machine := fun _ next => next (.ok ()) machine
  modifyGet f := fun machine next => next (.ok (f machine).1) (f machine).2

instance : MonadExceptOf Departure Act where
  throw := depart
  tryCatch := orElse

/-- Asks the system, which may change. -/
def ask {α : Type} (request : State → α × State) : Act α := fun machine next =>
  .step fun state =>
    let (a, state) := request state
    (state, next (.ok a) machine)

/-- Looks at the system. -/
def look {α : Type} (view : State → α) : Act α := ask fun state => (view state, state)

/-- Changes the system. -/
def change (update : State → State) : Act Unit := ask fun state => ((), update state)

/-- Waits until the system is ready. -/
def await (ready : State → Bool) : Act Unit := fun machine next =>
  .pause ready fun state => (state, next (.ok ()) machine)

/-- Does something in the end, also behind a departure. -/
def ensuring {α : Type} (act : Act α) (last : Act Unit) : Act α := fun machine next =>
  act machine fun result machine =>
    last machine fun after machine =>
      match after with
      | .ok () => next result machine
      | .error departure => next (.error departure) machine

/-- The task of a process that does something and ends with the status of its machine. One that goes
too deep is ended. -/
def toTask (act : Act Unit) (machine : Machine) : Task :=
  act machine fun result machine =>
    .step fun state =>
      match result with
      | .error .exhausted => (state.finish machine.process (.killed Host.accessSignal), .ended)
      | _ => (state.finish machine.process (.exited (machine.status % 256)), .ended)

/-- Starts a process with a copy of the machine; gives its number. -/
def fork (child : Act Unit) : Act Nat := fun machine next =>
  .step fun state =>
    let (number, state) := state.fork machine.process
    (state, .spawn number
      (fun _ => toTask child { machine with process := number, parent := machine.process })
      fun state => (state, next (.ok number) machine))

end Act

/-- The number of this process. -/
def myself : Act Nat := return (← get).process

/-- Sets the status. -/
def setStatus (status : Nat) : Act Unit := modify fun machine => { machine with status }

/-- Writes octets to a descriptor; gives the reason if that cannot be done. -/
def write (descriptor : Nat) (text : String) : Act (Option String) := do
  let me ← myself
  let attempt (hasWaited : Bool) (state : State) : Option (Option String) × State :=
    match state.write me descriptor hasWaited text with
    | .done state => (some none, state)
    | .refused reason => (some (some reason), state)
    | .broken => (some (some "Broken pipe"), state.send me Host.pipeSignal)
    | .notYet => (none, state)
  match ← Act.ask (attempt false) with
  | some result => return result
  | none =>
    Act.await fun state => state.hasRoom me descriptor
    return (← Act.ask (attempt true)).getD none

/-- Writes octets to a descriptor. -/
def say (descriptor : Nat) (text : String) : Act Unit := do
  let failure ← write descriptor text
  if failure.isSome && descriptor = 1 then
    modify fun machine => { machine with outputFailed := true }

/-- Finds what there is to read at a descriptor, waiting for it if need be. -/
def find (descriptor : Nat) : Act Host.Found := do
  let me ← myself
  match ← Act.look fun state => state.find me descriptor with
  | .notYet =>
    Act.await fun state => state.hasText me descriptor
    Act.look fun state => state.find me descriptor
  | found => return found

/-- Takes octets that were found. -/
def take (descriptor n : Nat) : Act Unit := do
  let me ← myself
  Act.change fun state => state.take me descriptor n

/-- Reads all that comes, in at most so many pieces. -/
def readPieces (fuel descriptor : Nat) (pieces : List String) : Act (Except DiskError String) :=
  match fuel with
  | 0 => return .ok (String.join pieces.reverse)
  | fuel + 1 => do
    match ← find descriptor with
    | .text octets =>
      take descriptor octets.length
      readPieces fuel descriptor (String.ofList octets :: pieces)
    | .refused error => if pieces.isEmpty then return .error error else
      return .ok (String.join pieces.reverse)
    | .ended | .notYet => return .ok (String.join pieces.reverse)

/-- Reads all that comes from a descriptor. -/
def readAll (descriptor : Nat) : Act (Except DiskError String) := readPieces 100000 descriptor []

/-- Does something with all that comes from a descriptor, in at most so many pieces; gives the reason
if it cannot be read. -/
def forPieces (fuel descriptor : Nat) (pass : String → Act Unit) : Act (Option DiskError) :=
  match fuel with
  | 0 => return none
  | fuel + 1 => do
    match ← find descriptor with
    | .text octets =>
      take descriptor octets.length
      pass (String.ofList octets)
      forPieces fuel descriptor pass
    | .refused error => return some error
    | .ended | .notYet => return none

/-- Passes on what comes from a descriptor as it comes; gives the reason if it cannot be read. -/
def passOn (descriptor : Nat) (pass : String → Act Unit) : Act (Option DiskError) :=
  forPieces 100000 descriptor pass

/-- Reads a line from a descriptor, in at most so many pieces: its text, and whether its end was
there. -/
def readLineIn (fuel descriptor : Nat) (mark : Char) (pieces : List String) : Act (String × Bool) :=
  match fuel with
  | 0 => return (String.join pieces.reverse, false)
  | fuel + 1 => do
    match ← find descriptor with
    | .text octets =>
      let line := octets.takeWhile (· != mark)
      let ended := line.length < octets.length
      take descriptor (line.length + (if ended then 1 else 0))
      let pieces := String.ofList line :: pieces
      if ended then return (String.join pieces.reverse, true)
      else readLineIn fuel descriptor mark pieces
    | _ => return (String.join pieces.reverse, false)

/-- What stands in front of a message of a shell: its name and the line. The extended language tells
what the text comes from instead of the name. -/
def Machine.messageFront (machine : Machine) : String :=
  match machine.dialect with
  | .common => machine.name ++ ": " ++ toString machine.line ++ ": "
  | .extended => machine.sourceName ++ ": line " ++ toString machine.line ++ ": "

/-- Writes a message about the present line. In the common language the command that the shell is
carrying out is told too. -/
def complain (text : String) : Act Unit := do
  let machine ← get
  let command :=
    match machine.dialect, machine.command with
    | .common, some command => command ++ ": "
    | _, _ => ""
  say 2 (machine.messageFront ++ command ++ text ++ "\n")

/-- Writes a message of the command that the shell is carrying out. -/
def complainIn (text : String) : Act Unit := do
  let machine ← get
  let command := machine.command.elim "" (· ++ ": ")
  say 2 (machine.messageFront ++ command ++ text ++ "\n")

/-- Writes a message of a program. -/
def complainAs (program text : String) : Act Unit := say 2 (program ++ ": " ++ text ++ "\n")

/-- Fails with a message. -/
def abandon {α : Type} (status : Nat) (message : String) : Act α := do
  complain message
  setStatus status
  throw .fault

/-- Fails with a message of the command that the shell is carrying out. -/
def abandonIn {α : Type} (status : Nat) (message : String) : Act α := do
  complainIn message
  setStatus status
  throw .fault

/-- The disk. -/
def theDisk : Act Disk := Act.look fun state => state.disk

/-- Tries to change the disk. -/
def changeDisk (change : Disk → Except DiskError Disk) : Act (Option DiskError) :=
  Act.ask fun state =>
    match change state.disk with
    | .ok disk => (none, { state with disk })
    | .error error => (some error, state)

/-- A path as the disk knows it. -/
def diskPath (octets : String) : String := Text.decode octets

/-- Waits until a process is over; gives how it ended. -/
def awaitProcess (number : Nat) : Act Host.ProcessEnd := do
  Act.await fun state => state.isOver number
  return (← Act.look fun state => state.ending? number).getD (.exited 0)

end Runbook.Shell
