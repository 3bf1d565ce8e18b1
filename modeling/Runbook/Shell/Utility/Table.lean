import Runbook.Shell.Builtin.Condition
import Runbook.Shell.Builtin.Output
import Runbook.Shell.Utility.Clock
import Runbook.Shell.Utility.Columns
import Runbook.Shell.Utility.Compare
import Runbook.Shell.Utility.Counting
import Runbook.Shell.Utility.Order
import Runbook.Shell.Utility.Reckoning
import Runbook.Shell.Utility.Stream
import Runbook.Shell.Utility.Walk

/-!
# The programs by name
-/

namespace Runbook.Shell

/-- A command of a shell as a program: a fault has a status of its own. -/
def asProgram (faulty : Nat) (utility : Utility) : Program := fun _ arguments => do
  try utility arguments
  catch departure =>
    if departure = .fault then return faulty else throw departure

/-- Tells the present directory. -/
def pwd : Program := fun _ =>
  withOptions ⟨"LP", [("logical", 'L'), ("physical", 'P')], false⟩ 1 fun _ _ => do
    say 1 (Text.encode (Path.ofLocation (← get).directory).text ++ "\n")
    return 0

/-- The programs that are known. -/
def programs : List (String × Program) :=
  [("true", fun _ _ => return 0), ("false", fun _ _ => return 1),
   ("echo", asProgram 1 echo), ("printf", asProgram 1 printf), ("test", asProgram 2 test),
   ("[", asProgram 2 bracket), ("kill", asProgram 1 killCommand), ("pwd", pwd),
   ("cat", cat), ("ls", ls), ("mkdir", mkdir), ("rmdir", rmdir), ("rm", rm), ("touch", touch),
   ("cp", copyOrMove false), ("mv", copyOrMove true), ("ln", ln), ("tee", tee), ("chmod", chmod),
   ("realpath", realpath), ("readlink", readlink), ("mktemp", mktemp),
   ("head", pickLines false), ("tail", pickLines true), ("wc", wc), ("tac", tac), ("rev", rev),
   ("nl", nl), ("paste", paste), ("fold", fold), ("yes", yes),
   ("sort", sort), ("uniq", uniq), ("comm", comm), ("cut", cut), ("tr", tr),
   ("grep", grepAs none), ("egrep", grepAs (some 'E')), ("fgrep", grepAs (some 'F')), ("sed", sed),
   ("basename", basename), ("dirname", dirname), ("which", which), ("whoami", tellFact "root"),
   ("id", idProgram), ("uname", uname), ("arch", tellFact "x86_64"), ("nproc", tellFact "1"),
   ("hostname", tellFact "localhost"), ("groups", tellFact "root"), ("tty", tty),
   ("env", env), ("printenv", printenv), ("sleep", sleep), ("timeout", timeout), ("nohup", nohup),
   ("nice", nice), ("xargs", xargs), ("find", findFiles),
   ("cmp", cmp), ("diff", diff), ("seq", seq), ("expr", expr), ("date", date)]

end Runbook.Shell
