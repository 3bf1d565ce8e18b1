import Runbook.Shell.Builtin.Condition
import Runbook.Shell.Builtin.Declaration
import Runbook.Shell.Builtin.Flow
import Runbook.Shell.Builtin.Input
import Runbook.Shell.Builtin.Jobs
import Runbook.Shell.Builtin.Names
import Runbook.Shell.Builtin.Options
import Runbook.Shell.Builtin.Output
import Runbook.Shell.Builtin.Place
import Runbook.Shell.Builtin.Signals

/-!
# The commands of a shell by name

These commands need nothing but the machine and the system; those that run other commands are known
where commands are run.
-/

namespace Runbook.Shell

/-- The commands of every shell. -/
def ownCommands : List (String × Utility) :=
  [(":", fun _ => return 0), ("true", fun _ => return 0), ("false", fun _ => return 1),
   ("[", bracket), ("alias", aliasCommand), ("bg", refuseJob), ("break", leaveLoops .loopEnd),
   ("cd", changeDirectory), ("chdir", changeDirectory), ("continue", leaveLoops .loopNext),
   ("echo", echo), ("exit", exitCommand), ("export", exportVariables), ("fg", refuseJob),
   ("getopts", getOption), ("hash", hashCommand), ("jobs", jobsCommand), ("kill", killCommand),
   ("local", keepVariables), ("printf", printf), ("pwd", tellDirectory), ("read", readVariables),
   ("readonly", protectVariables), ("return", returnCommand), ("set", setCommand),
   ("shift", shiftCommand), ("test", test), ("times", timesCommand), ("trap", trapCommand),
   ("type", typeCommand), ("ulimit", limitCommand), ("umask", maskCommand),
   ("unalias", unaliasCommand), ("unset", unsetNames), ("wait", waitCommand)]

/-- The commands that only the extended language has. -/
def extendedUtilities : List (String × Utility) :=
  [("declare", declareVariables false), ("typeset", declareVariables false), ("let", letCommand),
   ("pushd", pushDirectory), ("popd", popDirectory), ("dirs", listDirectories),
   ("mapfile", readIntoList), ("readarray", readIntoList), ("shopt", shoptCommand),
   ("caller", callerCommand), ("enable", enableCommand), ("disown", disownCommand),
   ("logout", logoutCommand), ("suspend", suspendCommand), ("compgen", completionsCommand),
   ("history", fun _ => return 0), ("bind", fun _ => return 0), ("complete", fun _ => return 0),
   ("help", fun _ => return 0)]

/-- What a command of a machine does. -/
def Machine.ownUtility? (machine : Machine) (name : String) : Option Utility :=
  match ownCommands.lookup name with
  | some utility => some utility
  | none => if machine.isExtended then extendedUtilities.lookup name else none

end Runbook.Shell
