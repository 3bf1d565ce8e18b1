import Runbook.Host.Basic

/-!
# Opening files

A path is opened for a purpose. Some paths name no file but a device, or what a descriptor of the
process leads to.
-/

namespace Runbook.Host

/-- What a file is opened for. -/
inductive Purpose where
  | read
  | write
  | append
  | readWrite
  | create
  deriving DecidableEq, Repr

namespace State

/-- The descriptor that a path names. -/
def descriptorNamed? (path : String) : Option Nat :=
  match path with
  | "/dev/stdin" => some 0
  | "/dev/stdout" => some 1
  | "/dev/stderr" => some 2
  | _ =>
    let front := "/dev/fd/"
    let digits := path.toList.drop front.length
    if path.startsWith front && !digits.isEmpty && digits.all Char.isDigit then
      some (digits.foldl (fun n c => n * 10 + (c.toNat - 48)) 0)
    else none

/-- The device that a path names. -/
def deviceNamed? (path : String) : Option StreamEnd :=
  match path with
  | "/dev/null" => some .nothing
  | "/dev/zero" => some .zeros
  | "/dev/full" => some .full
  | _ => none

/-- Opens a path from a directory for a process; gives the number of the stream. -/
def openPath (state : State) (number : Nat) (directory : Location) (path : String)
    (purpose : Purpose) : Except DiskError (Nat × State) :=
  let stream (place : StreamEnd) : Stream :=
    match purpose with
    | .read => .toRead place
    | .append => .toWrite place true
    | .readWrite => { Stream.toRead place with writes := true }
    | .write | .create => .toWrite place false
  match descriptorNamed? path, deviceNamed? path with
  | some descriptor, _ =>
    match state.streamOf? number descriptor with
    | some stream => .ok (stream, state)
    | none => .error .notFound
  | none, some device => .ok (state.openStream (stream device))
  | none, none => do
    let place ← state.disk.find directory path
    match purpose, state.disk.lookup place with
    | .read, some (.file _ _) => .ok (state.openStream (stream (.file place)))
    | .read, some .directory => .ok (state.openStream (stream (.directory place)))
    | .read, none => .error .notFound
    | .create, some (.file _ _) => .error .alreadyThere
    | _, some .directory => .error .isDirectory
    | .write, some (.file _ executable) =>
      let disk := state.disk.insert place (.file [] executable)
      .ok ({ state with disk }.openStream (stream (.file place)))
    | _, some (.file _ _) => .ok (state.openStream (stream (.file place)))
    | _, none =>
      let disk ← state.disk.write directory path []
      .ok ({ state with disk }.openStream (stream (.file place)))

end State

end Runbook.Host
