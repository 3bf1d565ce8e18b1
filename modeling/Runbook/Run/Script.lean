import Runbook.Run.Session

/-!
# Scripted runs

A runner that ends each command as a list says and writes nothing. Commands beyond the list end
with status zero.
-/

namespace Runbook

/-- Ends each command with the next ending of the list. -/
def scriptedRunner : Runner (List Ending)
  | [], _ => (⟨.exited 0, "", ""⟩, [])
  | ending :: endings, _ => (⟨ending, "", ""⟩, endings)

end Runbook
