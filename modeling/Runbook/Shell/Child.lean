import Runbook.Shell.Builtin.Signals

/-!
# Child processes

A shell starts processes with other descriptors, waits for them, and tells if a signal ended one.
-/

namespace Runbook.Shell

/-- Starts a process in which some descriptors lead elsewhere; gives its number. -/
def startChild (connections : List (Nat × Option Nat)) (act : Act Unit) : Act Nat := do
  let number ← Act.fork act
  Act.change fun state =>
    connections.foldl (fun state (descriptor, stream) =>
      state.connect number descriptor stream) state
  return number

/-- Opens a pipe; gives the stream to read from and the one to write to. -/
def openPipe : Act (Nat × Nat) :=
  Act.ask fun state =>
    let (pipe, state) := state.openPipe ""
    let (reader, state) := state.openStream (.toRead (.pipe pipe))
    let (writer, state) := state.openStream (.toWrite (.pipe pipe) false)
    ((reader, writer), state)

/-- Starts a child of the foreground. -/
def startPart (connections : List (Nat × Option Nat)) (act : Act Unit) : Act Nat := do
  let _ ← takeJobNumber
  startChild connections act

/-- Waits for a child in the foreground; gives its status. -/
def awaitChild (number : Nat) : Act Nat := do
  let ending ← awaitProcess number
  noteEnds
  tellEnd ending number
  return endStatus ending

/-- Waits for the children of a pipeline; gives their statuses. -/
def awaitChildren : List Nat → Act (List Nat)
  | [] => return []
  | number :: numbers => do
    let status ← awaitChild number
    return status :: (← awaitChildren numbers)

/-- The descriptor through which a shell reads what its own commands write. -/
def captureDescriptor : Nat := 1000

/-- The first of the descriptors under which commands find streams that words stand for. -/
def passedDescriptor : Nat := 63

/-- The output of an act in a process of its own; its status is kept. -/
def captured (act : Act Unit) : Act String := do
  let (reader, writer) ← openPipe
  let child ← startPart [(1, some writer)] act
  connect captureDescriptor (some reader)
  let text := (← readAll captureDescriptor).toOption.getD ""
  connect captureDescriptor none
  let status ← awaitChild child
  modify fun machine => { machine with substituted := some status }
  return text

/-- The path under which a command finds what an act in a process of its own writes or reads. -/
def passed (writes : Bool) (act : Act Unit) : Act String := do
  let machine ← get
  let descriptor := passedDescriptor - machine.passing.length
  let (reader, writer) ← openPipe
  let (inner, outer) := if writes then ((0, some reader), writer) else ((1, some writer), reader)
  let _ ← startChild [inner] act
  connect descriptor (some outer)
  modify fun machine => { machine with passing := descriptor :: machine.passing }
  return "/dev/fd/" ++ toString descriptor

/-- Closes the streams that words stood for, but for those that were there before. -/
def closePassed (before : List Nat) : Act Unit := do
  let passing := (← get).passing
  for descriptor in passing do
    if !before.contains descriptor then connect descriptor none
  modify fun machine => { machine with passing := before }

end Runbook.Shell
