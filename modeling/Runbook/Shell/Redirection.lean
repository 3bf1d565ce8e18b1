import Runbook.Host.Opening
import Runbook.Shell.Act

/-!
# Redirections

A redirection makes a descriptor lead to a file, to a device, to a text, or where another
descriptor leads. What cannot be opened is told, and the command is not run.
-/

namespace Runbook.Shell

open Host (Purpose)

/-- The words for a path that cannot be opened. -/
def openingText (dialect : Dialect) (creates : Bool) (path : String) (error : DiskError) : String :=
  let isAbsent := error = .notFound || error = .notDirectory
  match dialect with
  | .common =>
    (if creates then "cannot create " else "cannot open ") ++ path ++ ": " ++
      (if !isAbsent then error.text
      else if creates then "Directory nonexistent" else "No such file")
  | .extended =>
    if error = .alreadyThere then path ++ ": cannot overwrite existing file"
    else path ++ ": " ++ error.text

/-- Opens a path; gives the number of the stream or the words for why not. -/
def openPath (path : String) (purpose : Purpose) : Act (Except DiskError Nat) := do
  let machine ← get
  Act.ask fun state =>
    match state.openPath machine.process machine.directory (diskPath path) purpose with
    | .ok (stream, state) => (.ok stream, state)
    | .error error => (.error error, state)

/-- Opens a path for a redirection. -/
def openFor (path : String) (purpose : Purpose) : Act (Except String (Option Nat)) := do
  match ← openPath path purpose with
  | .ok stream => return .ok (some stream)
  | .error error => return .error (openingText (← get).dialect (purpose != .read) path error)

/-- Opens a text to be read. -/
def openText (text : String) : Act Nat :=
  Act.ask fun state =>
    let (pipe, state) := state.openPipe text
    state.openStream (.toRead (.pipe pipe))

/-- Makes a descriptor of this process lead to a stream, or nowhere. -/
def connect (descriptor : Nat) (stream : Option Nat) : Act Unit := do
  let me ← myself
  Act.change fun state => state.connect me descriptor stream

/-- The number of the stream that a descriptor of this process leads to. -/
def streamOf? (descriptor : Nat) : Act (Option Nat) := do
  let me ← myself
  Act.look fun state => state.streamOf? me descriptor

/-- The stream that a text names as the copy of a descriptor: nothing to close it. -/
def copyOf (text : String) : Act (Except String (Option Nat)) := do
  let machine ← get
  if text = "-" then return .ok none
  else
    let isGood := !text.isEmpty && text.toList.all Char.isDigit &&
      (machine.isExtended || text.length = 1)
    match isGood, readNat? 10 text.toList with
    | true, some descriptor =>
      match ← streamOf? descriptor with
      | some stream => return .ok (some stream)
      | none => return .error (text ++ ": Bad file descriptor")
    | _, _ =>
      if machine.isExtended then return .error (text ++ ": ambiguous redirect")
      else abandon 2 "Syntax error: Bad fd number"

/-- Opens what a redirection names, its target being a text. Whether an existing file is kept is an
option. -/
def openTarget (kind : RedirectKind) (text : String) : Act (Except String (Option Nat)) := do
  match kind with
  | .input => openFor text .read
  | .output | .outputAndErrors false =>
    if (← get).has 'C' then openFor text .create else openFor text .write
  | .overwrite => openFor text .write
  | .append | .outputAndErrors true => openFor text .append
  | .both => openFor text .readWrite
  | .copyInput | .copyOutput => copyOf text
  | .hereText => return .ok (some (← openText text))
  | .hereWord => return .ok (some (← openText (text ++ "\n")))

/-- Where the descriptors led that redirections changed. -/
abbrev Saved := List (Nat × Option Nat)

/-- Lets descriptors lead where they led before. -/
def restore : Saved → Act Unit
  | [] => return ()
  | (descriptor, stream) :: rest => do
    connect descriptor stream
    restore rest

/-- Changes where a descriptor leads, and keeps in mind where it led. -/
def redirectTo (saved : Saved) (descriptor : Nat) (stream : Option Nat) : Act Saved := do
  let before ← streamOf? descriptor
  connect descriptor stream
  return (descriptor, before) :: saved

/-- Writes to a stream that no descriptor need lead to. -/
def sayTo (stream : Option Nat) (text : String) : Act Unit := do
  let saved ← redirectTo [] 2 stream
  say 2 text
  restore saved

end Runbook.Shell
