import Runbook.Config.Settings
import Runbook.Run.Session
import Runbook.Shell.Eval

/-!
# Launching commands

A launcher runs the text of a command with a program, in a directory of a disk. The program may be
missing or refuse to start; then the command is not run at all.
-/

namespace Runbook.Shell

/-- How commands are launched: the program, the directory of the caller, the directory to run in
if another one is asked for, whether output goes with the errors, and the variables. -/
structure Launcher where
  program : String
  home : Location
  workingDir : Option Path
  outputToStderr : Bool
  environment : List (String × String)
  deriving Repr

/-- The launcher that settings ask for. -/
def Launcher.ofSettings (home : Location) (environment : List (String × String))
    (settings : Settings) : Launcher :=
  ⟨settings.shell, home, settings.workingDir, settings.outputToStderr, environment⟩

/-- A text in quotes, as it is named in messages. -/
def quoted (text : String) : String :=
  let mark := if text.toList.contains '\x27' && !text.toList.contains '\x22' then '\x22' else '\x27'
  let body := text.toList.flatMap fun c =>
    if c == mark || c == '\\' then ['\\', c]
    else if c == '\n' then ['\\', 'n']
    else if c == '\r' then ['\\', 'r']
    else if c == '\t' then ['\\', 't']
    else if c.toNat < 32 || (127 ≤ c.toNat && c.toNat ≤ 160) || c.toNat = 173 then
      ['\\', 'x'] ++ padLeft 2 '0' (Nat.toDigits 16 c.toNat)
    else [c]
  String.ofList (mark :: body ++ [mark])

/-- Checks that a file can be started: a known program, a shell, or a script whose first line names
a program. -/
def checkStart (disk : Disk) (directory : Location) (bytes : List UInt8) : Except DiskError Unit :=
  match Executable.ofBytes bytes with
  | .shell _ | .known _ => .ok ()
  | .script interpreter _ =>
    match disk.stat directory (diskPath interpreter) with
    | .ok (_, .file _ true) => .ok ()
    | .ok _ => .error .denied
    | .error error => .error error
  | .unmarked => .error .badFormat

/-- The program at a path. -/
def programAt (disk : Disk) (directory : Location) (path : String) : Except DiskError String :=
  match disk.stat directory path with
  | .ok (_, .file bytes true) => (checkStart disk directory bytes).map fun _ => path
  | .ok _ => .error .denied
  | .error error => .error error

/-- The first program that the search path leads to. A refusal on the way is told only if no
program is found behind it. -/
def searchProgram (disk : Disk) (directory : Location) (name : String) :
    List String → Except DiskError String
  | [] => .error .notFound
  | front :: others =>
    let here :=
      if Path.counts name then programAt disk directory (front ++ "/" ++ name)
      else .error .denied
    match here, searchProgram disk directory name others with
    | .ok program, _ => .ok program
    | .error _, .ok program => .ok program
    | .error error, .error other => .error (if error.meansAbsent then other else error)

/-- The program that a name leads to. -/
def findProgram (disk : Disk) (directory : Location) (search name : String) :
    Except DiskError String :=
  if name.toList.contains '/' then programAt disk directory name
  else searchProgram disk directory name (Text.splitString ':' search)

/-- The directory that a launcher runs in. -/
def Launcher.directory (launcher : Launcher) (disk : Disk) : Except DiskError Location :=
  match launcher.workingDir with
  | none => .ok launcher.home
  | some path =>
    match disk.stat launcher.home path.text with
    | .ok (place, .directory) => .ok place
    | .ok (_, .file _ _) => .error .notDirectory
    | .error error => .error error

/-- The reason for not starting, where `name` is what the error is about. -/
def Launcher.refusal (launcher : Launcher) (name : String) (error : DiskError) : String :=
  if error = .notFound then "Shell not found: " ++ launcher.program
  else
    "Could not start " ++ launcher.program ++ ": [Errno " ++ toString error.number ++ "] " ++
      error.text ++ ": " ++ name

/-- The fuel for the depth and the rounds of a command. -/
def commandFuel : Nat := 1000000

/-- The fuel for the steps of all processes. -/
def stepFuel : Nat := 100000000

/-- The streams at the start: an empty input, the output, and the errors. -/
def Launcher.streams (launcher : Launcher) : Array Host.Stream :=
  #[.toRead .nothing, .toWrite (if launcher.outputToStderr then .errors else .output) true,
    .toWrite .errors true]

/-- The system at the start: one process on a disk. -/
def Launcher.state (launcher : Launcher) (disk : Disk) : Host.State :=
  { disk, clock := 0
    processes := [(Host.firstNumber, ⟨1, [(0, 0), (1, 1), (2, 2)], [], [], [], none, none⟩)]
    nextNumber := Host.firstNumber + 1
    streams := launcher.streams, pipes := #[], output := [], errors := [] }

/-- A machine at its start. -/
def Launcher.machine (launcher : Launcher) (directory : Location) : Machine :=
  { dialect := .common, name := Text.encode launcher.program, process := Host.firstNumber
    root := Host.firstNumber, parent := 1, arguments := [], option := 1, optionOffset := 0
    directory, path := Text.encode (Path.ofLocation directory).text, otherPaths := []
    bindings := launcher.environment.map fun (name, value) =>
      (Text.encode name,
        { Variable.unset with content := some (.single (Text.encode value)), exported := true })
    frames := [], functions := [], aliases := [], hashed := [], disabled := []
    hereTexts := #[], status := 0
    substituted := none, parts := [], line := 1, functionLine := none, callers := []
    file := none, input := none, command := none, shown := "", loops := 0, level := 0, depth := 0
    skip := none, options := [], settings := []
    traps := [], trapStatus := none, trapped := [], outerTraps := [], tracing := false, jobs := []
    lastJob := none
    lastArgument := "", mask := 18, outputFailed := false, seed := 20000, passing := [] }

/-- How the first process ended, if it did. -/
def endingOf : Option Host.ProcessEnd → Ending
  | some (.exited status) => .exited status
  | some (.killed signal) => .exited (-(signal : Int))
  | none => .faulted (.unexpected "the command does not end")

/-- Runs a command; the runner's state is the disk. -/
def Launcher.launch (launcher : Launcher) : Runner Disk := fun disk command =>
  let refuse (ending : Ending) : Reply × Disk := (⟨ending, "", ""⟩, disk)
  let texts := [command, launcher.program] ++ (launcher.workingDir.map Path.text).toList
  if texts.any fun text => text.toList.contains '\x00' then
    refuse (.faulted .nullCharacter)
  else
    match launcher.directory disk with
    | .error error =>
      let name := "PosixPath(" ++ quoted ((launcher.workingDir.map Path.text).getD ".") ++ ")"
      refuse (.notStarted (launcher.refusal name error))
    | .ok directory =>
      let search := (launcher.environment.lookup "PATH").getD standardSearch
      let full := furnished disk
      match findProgram full directory search launcher.program with
      | .error error => refuse (.notStarted (launcher.refusal (quoted launcher.program) error))
      | .ok path =>
        let act := becomeProgram commandFuel (Text.encode path)
          [Text.encode launcher.program, "-c", Text.encode command]
        let task := Act.toTask act (launcher.machine directory)
        let state := Host.runTasks stepFuel (launcher.state full)
          (some (Host.firstNumber, task)) []
        (⟨endingOf (state.ending? Host.firstNumber), Text.decode state.outputText,
            Text.decode state.errorText⟩,
          unfurnished disk state.disk)

end Runbook.Shell
