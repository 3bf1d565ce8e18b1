import Runbook.Command.Options
import Runbook.Config.Settings
import Runbook.Disk.Path

/-!
# Invocations

A command line holds the options that all tasks share, then the name of a task, then the options
and operands of the task. Asking for the version or for help comes before all else, as long as the
options in front of the task are well formed. Behind two dashes a name that is no task but looks
like an option may still ask for them.
-/

namespace Runbook.Command

/-- The options that all tasks share. -/
inductive SharedKey where
  | version
  | help
  | verbose
  | quiet
  | asData
  | plain
  deriving DecidableEq, Repr

/-- The shared options and their spellings. -/
def sharedSwitches : List (Switch SharedKey) :=
  [⟨.version, "--version", some 'V', false⟩, ⟨.verbose, "--verbose", some 'v', false⟩,
   ⟨.quiet, "--quiet", some 'q', false⟩, ⟨.asData, "--json", none, false⟩,
   ⟨.plain, "--no-color", none, false⟩, ⟨.help, "--help", none, false⟩]

/-- How a task reports and what it logs. -/
structure Manner where
  verbose : Nat
  quiet : Bool
  asData : Bool
  plain : Bool
  deriving DecidableEq, Repr

/-- The options of the tasks. -/
inductive TaskKey where
  | output
  | settings
  | dryRun
  | help
  deriving DecidableEq, Repr

/-- What can be asked for. -/
inductive Task where
  | create
  | show (document : Path) (output : Option Path)
  | check (document : Path)
  | run (document settings : Path) (dry : Bool)
  deriving DecidableEq, Repr

/-- A command line as it is meant. -/
inductive Invocation where
  | misused
  | version
  | help
  | perform (manner : Manner) (task : Task)
  deriving DecidableEq, Repr

/-- The option for help that each task has. -/
def helpSwitch : Switch TaskKey := ⟨.help, "--help", none, false⟩

/-- The options of a task; nothing for a name that is no task. -/
def taskSwitches? : String → Option (List (Switch TaskKey))
  | "init" | "check" => some [helpSwitch]
  | "plan" => some [⟨.output, "--output", some 'o', true⟩, helpSwitch]
  | "run" =>
    some [⟨.settings, "--config", some 'c', true⟩, ⟨.dryRun, "--dry-run", none, false⟩,
      helpSwitch]
  | _ => none

/-- The task of a name with its options and operands; nothing if there are too few operands or too
many. -/
def Task.ofLine? (name : String) (line : Line TaskKey) : Option Task :=
  match name, line.operands with
  | "init", [] => some .create
  | "plan", [document] =>
    some (.show (.ofText document) ((line.value? .output).map Path.ofText))
  | "check", [document] => some (.check (.ofText document))
  | "run", [document] =>
    let settings := (line.value? .settings).getD Settings.fileName
    some (.run (.ofText document) (.ofText settings) (line.has .dryRun))
  | _, _ => none

/-- The invocation of a task by its name and arguments. -/
def Invocation.ofTask (manner : Manner) (name : String) (arguments : List String) : Invocation :=
  match (taskSwitches? name).bind fun switches => readLine switches true arguments with
  | none => .misused
  | some line =>
    if line.has .help then .help
    else
      match Task.ofLine? name line with
      | some task => .perform manner task
      | none => .misused

/-- What the shared options alone ask for: the version or help, whichever comes first. -/
def Invocation.ofShared? (line : Line SharedKey) : Option Invocation :=
  (line.find? [.version, .help]).map fun key => if key = .version then .version else .help

/-- Whether a name that is no task looks like an option. -/
def looksLikeOption (name : String) : Bool := name.toList.head?.any fun c => !c.isAlphanum

/-- The invocation that arguments spell. -/
def Invocation.ofArguments (arguments : List String) : Invocation :=
  match readLine sharedSwitches false arguments with
  | none => .misused
  | some line =>
    match Invocation.ofShared? line, line.operands with
    | some invocation, _ => invocation
    | none, name :: arguments =>
      if (taskSwitches? name).isNone && looksLikeOption name then
        ((readLine sharedSwitches false (name :: arguments)).bind
          Invocation.ofShared?).getD .misused
      else
        .ofTask ⟨line.count .verbose, line.has .quiet, line.has .asData, line.has .plain⟩ name
          arguments
    | none, [] => .misused

end Runbook.Command
