import Runbook.Number.Written
import Runbook.Disk.Path
import Runbook.Shell.DateForm
import Runbook.Shell.Listing
import Runbook.Shell.Variable
import Runbook.Host.Signal
import Runbook.Text.Octets

/-!
# Machines that run scripts

A machine is the state of one shell: its variables and functions, its arguments and options, its
traps and jobs, and how it goes on.
-/

namespace Runbook.Shell

/-- What is to be passed over before commands are run again. A return tells its status. -/
inductive Skip where
  | loopEnd (levels : Nat)
  | loopNext (levels : Nat)
  | back (hasStatus : Bool)
  deriving DecidableEq, Repr

/-- Whether a function or a script that is read is to end. -/
def Skip.isBack : Skip → Bool
  | back _ => true
  | _ => false

/-- A job in the background: its number, its text, its processes, whether the shell has seen that
they are over, and whether something has waited for them. -/
structure Job where
  number : Nat
  text : String
  processes : List Nat
  ended : Bool
  waited : Bool
  deriving DecidableEq, Repr

/-- The process whose end is that of the job. -/
def Job.last (job : Job) : Nat := job.processes.getLast?.getD 0

/-- A function: its body, the line on which it starts, the file that it comes from, whether it is
given to programs, and whether it is protected from change. -/
structure Function where
  line : Nat
  body : Command
  source : String
  exported : Bool
  readOnly : Bool

/-- What is being run by a command: a function or a file, the line of the command, and the file that
what is run comes from. -/
structure Caller where
  name : String
  line : Nat
  source : String
  deriving DecidableEq, Repr

/-- Where a program was found, and how often it was run from there. -/
structure KeptPath where
  path : String
  uses : Nat
  deriving DecidableEq, Repr

/-- The state of a shell. -/
structure Machine where
  dialect : Dialect
  name : String
  process : Nat
  root : Nat
  parent : Nat
  arguments : List String
  option : Nat
  optionOffset : Nat
  directory : Location
  path : String
  otherPaths : List String
  bindings : Bindings
  frames : List (List (String × Option Variable))
  functions : List (String × Function)
  aliases : List (String × String)
  hashed : List (String × KeptPath)
  disabled : List String
  hereTexts : Array Wording
  status : Nat
  substituted : Option Nat
  parts : List Nat
  line : Nat
  functionLine : Option Nat
  callers : List Caller
  file : Option String
  input : Option String
  command : Option String
  shown : String
  loops : Nat
  level : Nat
  depth : Nat
  skip : Option Skip
  options : List Char
  settings : List String
  traps : List (Nat × String)
  trapStatus : Option Nat
  trapped : List Nat
  outerTraps : List (Nat × String)
  tracing : Bool
  jobs : List Job
  lastJob : Option Nat
  lastArgument : String
  mask : Nat
  outputFailed : Bool
  seed : Nat
  passing : List Nat

/-- The characters that separate fields where no others are set. -/
def standardSeparators : String := " \t\n"

/-- The search path where none is set. -/
def standardSearch : String := "/usr/local/sbin:/usr/local/bin:/usr/sbin:/usr/bin:/sbin:/bin"

/-- What stands in front of the name of a function that is given to programs. -/
def givenFront : String := "BASH_FUNC_"

/-- What stands behind the name of a function that is given to programs. -/
def givenBack : String := "%%"

namespace Machine

/-- Whether the option of a letter is on. -/
def has (machine : Machine) (option : Char) : Bool := machine.options.contains option

/-- Whether the language is the extended one. -/
def isExtended (machine : Machine) : Bool := machine.dialect = .extended

/-- The name that a name stands for. -/
def nameOf (machine : Machine) (name : String) : String :=
  machine.bindings.nameBehind 10 name

/-- The variable that a name stands for. -/
def entry (machine : Machine) (name : String) : Variable :=
  machine.bindings.get (machine.nameOf name)

/-- The text of a variable. -/
def textOf? (machine : Machine) (name : String) : Option String :=
  (machine.entry name).content.bind (·.text?)

/-- The text of a variable, empty if it is not set. -/
def textOf (machine : Machine) (name : String) : String := (machine.textOf? name).getD ""

/-- The separators of fields. -/
def separators (machine : Machine) : List Char :=
  ((machine.textOf? "IFS").getD standardSeparators).toList

/-- Puts a variable in place. -/
def putVariable (machine : Machine) (name : String) (entry : Variable) : Machine :=
  { machine with bindings := machine.bindings.put name entry }

/-- Sets a variable to a text, whatever protects it. -/
def setText (machine : Machine) (name text : String) : Machine :=
  let name := machine.nameOf name
  let entry := machine.bindings.get name
  let exported := entry.exported || machine.has 'a'
  let content := Content.withText entry.content (entry.cased text)
  let machine := machine.putVariable name { entry with content := some content, exported }
  if name = "PATH" then { machine with hashed := [] }
  else if name = "OPTIND" then
    { machine with option := (readNat? 10 text.toList).getD 1, optionOffset := 0 }
  else machine

/-- Forgets a variable. -/
def unset (machine : Machine) (name : String) : Machine :=
  { machine with bindings := machine.bindings.erase name }

/-- The variables that commands are given, and the functions, under names that no variable has. -/
def environment (machine : Machine) : List (String × String) :=
  let texts := machine.bindings.filterMap fun (name, entry) =>
    if entry.exported then (entry.content.bind (·.text?)).map fun text => (name, text) else none
  let functions := machine.functions.filterMap fun (name, function) =>
    if function.exported then
      some (givenFront ++ name ++ givenBack, givenFunction machine.hereTexts function.body)
    else none
  texts ++ functions

/-- The letters of the options that are on, as they are told. -/
def optionLetters (machine : Machine) : String :=
  match machine.dialect with
  | .common => String.ofList ("pubaCEVvxsnmiIfe".toList.filter machine.has)
  | .extended =>
    String.ofList ("abefhkmnptuvxBCEHPTcs".toList.filter machine.has)

/-- The value of a parameter that is not a variable. -/
def special? (machine : Machine) (name : String) : Option String :=
  match name with
  | "?" => some (toString machine.status)
  | "#" => some (toString machine.arguments.length)
  | "$" => some (toString machine.root)
  | "!" => machine.lastJob.map fun n => toString n
  | "-" => some machine.optionLetters
  | "0" => some machine.name
  | _ =>
    match readNat? 10 name.toList with
    | some n => machine.arguments[n - 1]?
    | none => none

/-- What is being run, up to the file that the shell was started for. -/
def stack (machine : Machine) : List Caller :=
  machine.callers ++ (machine.file.map fun file => ⟨"main", 0, file⟩).toList

/-- The name of the text that is being run, as messages tell it. -/
def sourceName (machine : Machine) : String :=
  ((machine.stack.head?.map Caller.source).filter (· != "")).getD machine.name

/-- The texts of a list that changes by itself. -/
def movingTexts? (machine : Machine) (name : String) : Option (List String) :=
  match machine.dialect, name with
  | .extended, "PIPESTATUS" => some (machine.parts.map fun n => toString n)
  | .extended, "FUNCNAME" => machine.functionLine.map fun _ => machine.stack.map Caller.name
  | .extended, "BASH_LINENO" => some (machine.stack.map fun caller => toString caller.line)
  | .extended, "BASH_SOURCE" => some (machine.stack.map Caller.source)
  | .extended, "DIRSTACK" => some (machine.path :: machine.otherPaths)
  | _, _ => none

/-- The value of a variable that changes by itself. -/
def moving? (machine : Machine) (name : String) : Option String :=
  match machine.dialect, name with
  | .extended, "LINENO" => some (toString machine.line)
  | .common, "PPID" => some (toString machine.parent)
  | .extended, "PPID" => some (toString machine.parent)
  | .extended, "BASHPID" => some (toString machine.process)
  | .extended, "SECONDS" => some "0"
  | .extended, "EPOCHSECONDS" => some (toString clockStart)
  | .extended, "HOSTNAME" => some ((machine.textOf? name).getD "localhost")
  | .extended, "EUID" | .extended, "UID" => some "0"
  | .extended, "BASH_SUBSHELL" => some (toString machine.level)
  | .extended, "RANDOM" => some (toString (machine.seed % 32768))
  | .extended, "BASH_COMMAND" => some machine.shown
  | .extended, "_" => some machine.lastArgument
  | _, _ => (machine.movingTexts? name).bind (·.head?)

/-- The value of a parameter. -/
def parameter? (machine : Machine) (name : String) : Option String :=
  if name.front.isAlpha || name.front == '_' then
    match machine.moving? name with
    | some text => some text
    | none => machine.textOf? name
  else machine.special? name

/-- The text of a trap. -/
def trap? (machine : Machine) (signal : Nat) : Option String := machine.traps.lookup signal

/-- Whether any trap would run. -/
def hasTraps (machine : Machine) : Bool := machine.traps.any fun entry => entry.2 != ""

end Machine

end Runbook.Shell
