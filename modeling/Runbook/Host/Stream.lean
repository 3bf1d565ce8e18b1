import Runbook.Disk.Tree
import Runbook.Text.Octets

/-!
# Streams and pipes

A stream is one opening of a file, a pipe or an output. Processes that share a stream share its
position. A pipe keeps what was written to it until it is read.
-/

namespace Runbook.Host

/-- What a stream leads to. -/
inductive StreamEnd where
  | output
  | errors
  | nothing
  | full
  | zeros
  | file (place : Location)
  | directory (place : Location)
  | pipe (number : Nat)
  deriving DecidableEq, Repr

/-- One opening: what it leads to, how far it has been read or written, and what it is good for. -/
structure Stream where
  place : StreamEnd
  position : Nat
  reads : Bool
  writes : Bool
  appends : Bool
  deriving DecidableEq, Repr

namespace Stream

/-- A stream that is only read. -/
def toRead (place : StreamEnd) : Stream := ⟨place, 0, true, false, false⟩

/-- A stream that is only written. -/
def toWrite (place : StreamEnd) (appends : Bool) : Stream := ⟨place, 0, false, true, appends⟩

end Stream

/-- What stands in a pipe: the octets to be read next, and the pieces written since, last first. -/
structure Pipe where
  front : List Char
  back : List String
  size : Nat
  deriving Inhabited

namespace Pipe

/-- The empty pipe. -/
def empty : Pipe := ⟨[], [], 0⟩

/-- The pipe with more octets at its end. -/
def push (pipe : Pipe) (text : String) : Pipe :=
  { pipe with back := text :: pipe.back, size := pipe.size + text.length }

/-- The pipe with all that it holds in front. -/
def settle (pipe : Pipe) : Pipe :=
  if pipe.back.isEmpty then pipe
  else { pipe with front := pipe.front ++ (String.join pipe.back.reverse).toList, back := [] }

/-- The pipe without its first octets, once it is settled. -/
def drop (pipe : Pipe) (n : Nat) : Pipe :=
  { pipe with front := pipe.front.drop n, size := pipe.size - n }

end Pipe

/-- The number of octets that a pipe holds before its writers have to wait. -/
def pipeCapacity : Nat := 65536

end Runbook.Host
