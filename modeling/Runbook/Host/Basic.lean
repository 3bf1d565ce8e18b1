import Runbook.Host.Signal
import Runbook.Host.Stream

/-!
# Systems

A system is what processes share: the disk, the open streams, the clock, and what has become of
each process. It says what each request of a process does, and leaves it to its caller to ask again
when a request has to wait.
-/

namespace Runbook.Host

/-- How a process ended. -/
inductive ProcessEnd where
  | exited (status : Nat)
  | killed (signal : Nat)
  deriving DecidableEq, Repr

/-- What a system knows of a process: the process that started it, the stream that each of its
descriptors leads to, how it takes signals, when it wakes if it sleeps, and how it ended. -/
structure Process where
  parent : Nat
  descriptors : List (Nat × Nat)
  caught : List Nat
  ignored : List Nat
  pending : List Nat
  wakes : Option Nat
  ending? : Option ProcessEnd
  deriving Repr

/-- The state that processes share. The clock counts microseconds. What was written is kept in
pieces, last first. -/
structure State where
  disk : Disk
  clock : Nat
  processes : List (Nat × Process)
  nextNumber : Nat
  streams : Array Stream
  pipes : Array Pipe
  output : List String
  errors : List String

/-- The number of the first process. -/
def firstNumber : Nat := 4096

/-- What a process finds when it reads. -/
inductive Found where
  | text (octets : List Char)
  | ended
  | notYet
  | refused (error : DiskError)

/-- What becomes of a process that writes. -/
inductive Written where
  | done (state : State)
  | notYet
  | broken
  | refused (error : String)

namespace State

/-- The process with a number. -/
def process? (state : State) (number : Nat) : Option Process := state.processes.lookup number

/-- Changes what is known of a process. -/
def updateProcess (state : State) (number : Nat) (change : Process → Process) : State :=
  { state with
    processes := state.processes.map fun entry =>
      if entry.1 = number then (number, change entry.2) else entry }

/-- How a process ended, if it has. -/
def ending? (state : State) (number : Nat) : Option ProcessEnd :=
  (state.process? number).bind (·.ending?)

/-- Whether a process is over or was never there. -/
def isOver (state : State) (number : Nat) : Bool :=
  (state.process? number).all fun process => process.ending?.isSome

/-- The number of the stream that a descriptor leads to. -/
def streamOf? (state : State) (number descriptor : Nat) : Option Nat :=
  (state.process? number).bind (·.descriptors.lookup descriptor)

/-- The stream that a descriptor leads to. -/
def stream? (state : State) (number descriptor : Nat) : Option Stream :=
  (state.streamOf? number descriptor).bind fun n => state.streams[n]?

/-- Whether a running process has a stream that satisfies a condition. -/
def anyStream (state : State) (condition : Stream → Bool) : Bool :=
  state.processes.any fun (_, process) =>
    process.ending?.isNone &&
      process.descriptors.any fun (_, n) => state.streams[n]?.any condition

/-- Whether a pipe can still be written to. -/
def hasWriter (state : State) (pipe : Nat) : Bool :=
  state.anyStream fun stream => stream.place = .pipe pipe && stream.writes

/-- Whether a pipe can still be read. -/
def hasReader (state : State) (pipe : Nat) : Bool :=
  state.anyStream fun stream => stream.place = .pipe pipe && stream.reads

/-- Opens a stream; gives its number. -/
def openStream (state : State) (stream : Stream) : Nat × State :=
  (state.streams.size, { state with streams := state.streams.push stream })

/-- Makes a new pipe that holds a text; gives its number. -/
def openPipe (state : State) (text : String) : Nat × State :=
  let pipe := if text = "" then Pipe.empty else Pipe.empty.push text
  (state.pipes.size, { state with pipes := state.pipes.push pipe })

/-- Makes a descriptor lead to a stream, or nowhere. -/
def connect (state : State) (number descriptor : Nat) (stream : Option Nat) : State :=
  state.updateProcess number fun process =>
    let others := process.descriptors.filter (·.1 != descriptor)
    { process with
      descriptors :=
        match stream with
        | some stream => (descriptor, stream) :: others
        | none => others }

/-- Starts a process with the descriptors of another one. Signals that this one ignores stay
ignored. -/
def fork (state : State) (parent : Nat) : Nat × State :=
  let number := state.nextNumber
  let descriptors := ((state.process? parent).map (·.descriptors)).getD []
  let ignored := ((state.process? parent).map (·.ignored)).getD []
  (number,
    { state with
      nextNumber := number + 1
      processes := state.processes ++ [(number, ⟨parent, descriptors, [], ignored, [], none, none⟩)]
        })

/-- Ends a process; its descriptors are closed. -/
def finish (state : State) (number : Nat) (ending : ProcessEnd) : State :=
  state.updateProcess number fun process =>
    if process.ending?.isSome then process
    else { process with ending? := some ending, descriptors := [], pending := [], wakes := none }

/-- Sends a signal to a process. -/
def send (state : State) (number signal : Nat) : State :=
  match state.process? number with
  | none => state
  | some process =>
    if process.ending?.isSome || signal = 0 || process.ignored.contains signal then state
    else if process.caught.contains signal then
      state.updateProcess number fun process =>
        { process with pending := process.pending.filter (· != signal) ++ [signal] }
    else if isHarmless signal || isStopping signal then state
    else state.finish number (.killed signal)

/-- The octets of the file at a place. -/
def fileText? (state : State) (place : Location) : Option (List UInt8) :=
  match state.disk.lookup place with
  | some (.file bytes _) => some bytes
  | _ => none

/-- The octets that the clock may bring forth. -/
def zerosRead : Nat := 4096

/-- What a process finds when it reads from a descriptor. -/
def find (state : State) (number descriptor : Nat) : Found :=
  match state.stream? number descriptor with
  | none => .refused .badDescriptor
  | some stream =>
    if !stream.reads then .refused .badDescriptor
    else
      match stream.place with
      | .output | .errors | .nothing => .ended
      | .zeros | .full => .text (List.replicate zerosRead '\x00')
      | .directory _ => .refused .isDirectory
      | .file place =>
        match ((state.fileText? place).getD []).drop stream.position with
        | [] => .ended
        | rest => .text (rest.map fun b => Char.ofNat b.toNat)
      | .pipe pipe =>
        match (state.pipes[pipe]?.map Pipe.settle).map (·.front) with
        | some (c :: rest) => .text (c :: rest)
        | _ => if state.hasWriter pipe then .notYet else .ended

/-- Takes as many octets from what a descriptor leads to. -/
def take (state : State) (number descriptor n : Nat) : State :=
  match state.streamOf? number descriptor with
  | none => state
  | some index =>
    match state.streams[index]? with
    | none => state
    | some stream =>
      match stream.place with
      | .pipe pipe =>
        { state with pipes := state.pipes.modify pipe fun pipe => pipe.settle.drop n }
      | _ =>
        { state with
          streams := state.streams.setIfInBounds index
            { stream with position := stream.position + n } }

/-- The bytes of a file with others written over it from a position on. -/
def overwritten (bytes : List UInt8) (position : Nat) (new : List UInt8) : List UInt8 :=
  if bytes.length ≤ position then
    bytes ++ List.replicate (position - bytes.length) 0 ++ new
  else bytes.take position ++ new ++ bytes.drop (position + new.length)

/-- What becomes of octets that a process writes to a descriptor. A process that has waited for
room in a pipe need not wait again. -/
def write (state : State) (number descriptor : Nat) (hasWaited : Bool) (text : String) : Written :=
  match state.streamOf? number descriptor with
  | none => .refused "Bad file descriptor"
  | some index =>
    match state.streams[index]? with
    | none => .refused "Bad file descriptor"
    | some stream =>
      if !stream.writes then .refused "Bad file descriptor"
      else if text = "" then .done state
      else
        match stream.place with
        | .output => .done { state with output := text :: state.output }
        | .errors => .done { state with errors := text :: state.errors }
        | .nothing | .zeros | .directory _ => .done state
        | .full => .refused "No space left on device"
        | .pipe pipe =>
          if !state.hasReader pipe then .broken
          else if !hasWaited && pipeCapacity ≤ ((state.pipes[pipe]?.map Pipe.size).getD 0) then
            .notYet
          else .done { state with pipes := state.pipes.modify pipe fun pipe => pipe.push text }
        | .file place =>
          match state.disk.lookup place with
          | some (.file bytes executable) =>
            let new := Text.toBytes text
            let position := if stream.appends then bytes.length else stream.position
            let bytes := overwritten bytes position new
            .done
              { state with
                disk := state.disk.insert place (.file bytes executable)
                streams := state.streams.setIfInBounds index
                  { stream with position := position + new.length } }
          | _ => .done state

/-- Whether a process can write to a descriptor without waiting. -/
def hasRoom (state : State) (number descriptor : Nat) : Bool :=
  match state.stream? number descriptor with
  | some ⟨.pipe pipe, _, _, _, _⟩ =>
    !state.hasReader pipe || (state.pipes[pipe]?.map Pipe.size).getD 0 < pipeCapacity
  | _ => true

/-- Whether a process can read from a descriptor without waiting. -/
def hasText (state : State) (number descriptor : Nat) : Bool :=
  match state.find number descriptor with
  | .notYet => false
  | _ => true

/-- Whether a process has caught a signal that it has not seen yet. -/
def isCalled (state : State) (number : Nat) : Bool :=
  (state.process? number).any fun process => !process.pending.isEmpty

/-- What was written to the output. -/
def outputText (state : State) : String := String.join state.output.reverse

/-- What was written to the errors. -/
def errorText (state : State) : String := String.join state.errors.reverse

end State

end Runbook.Host
