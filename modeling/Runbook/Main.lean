import Runbook.Command.Perform
import Runbook.Shell.Launch

/-!
# The program

The program rehearses a run: it works on a copy of the files that its arguments name, and writes
back what has changed. Commands take no time on the copy, so that the clock stands still.
-/

namespace Runbook

/-- The files that a task is about. -/
def Command.Task.files : Command.Task → List Path
  | .create => [.ofText Settings.fileName]
  | .show document _ | .check document => [document]
  | .run document settings _ => [document, settings]

/-- The files that an invocation is about. -/
def Command.Invocation.files : Command.Invocation → List Path
  | .perform _ task => task.files
  | .misused | .version | .help => []

/-- A disk with one more file, if it can be read. -/
def addFile (home : Location) (disk : Disk) (path : Path) : IO Disk := do
  try
    let place := path.locate home
    let bytes ← IO.FS.readBinFile (Path.ofLocation place).text
    return (disk.makeDirectories place.dropLast).insert place (.file bytes.toList false)
  catch _ => return disk

/-- Writes what is new or changed on a disk. -/
def writeChanges (before after : Disk) : IO Unit := do
  for (place, entry) in after.entries do
    if before.lookup place != some entry then
      let path := (Path.ofLocation place).text
      match entry with
      | .file bytes _ => IO.FS.writeBinFile path ⟨bytes.toArray⟩
      | .directory => IO.FS.createDirAll path

/-- The variables that the program was given. -/
def givenVariables : IO (List (String × String)) := do
  let bytes ← IO.FS.readBinFile "/proc/self/environ"
  let texts := Text.splitOn '\x00' (Text.decode (Text.ofBytes bytes.toList)).toList
  return texts.filterMap fun text =>
    let name := text.takeWhile (· != '=')
    if name.length < text.length then
      some (String.ofList name, String.ofList (text.drop (name.length + 1)))
    else none

/-- Performs what the arguments ask for in the present directory. -/
def performHere (arguments : List String) : IO UInt32 := do
  let environment ← givenVariables
  let home := (Path.ofText ((environment.lookup "PWD").getD "/")).locate []
  let files := (Command.Invocation.ofArguments arguments).files
  let disk ← files.foldlM (addFile home) (Disk.makeDirectories ⟨[]⟩ home)
  let world : Command.World :=
    { disk, home, environment, clock := []
      runner := fun settings => (Shell.Launcher.ofSettings home environment settings).launch }
  let transcript := world.perform arguments
  writeChanges disk transcript.disk
  IO.eprint transcript.err
  IO.print transcript.out
  return UInt32.ofNat transcript.verdict.exitCode

end Runbook

/-- The entry of the program. -/
def main (arguments : List String) : IO UInt32 := Runbook.performHere arguments
