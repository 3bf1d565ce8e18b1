import Runbook.Proofs.Command.Exit
import Runbook.Proofs.Console.Report
import Runbook.Proofs.Plan.Unguarded

/-!
# What a command says of an invalid document

Whatever is to be done with a document, and however it is reported, a document without a plan is
told to be invalid with its own message, and nothing else is done. Only of an unguarded document
nothing is said.
-/

namespace Runbook

namespace Command

/-- The document that a task is about. -/
def Task.document? : Task → Option Path
  | .create => none
  | .show document _ | .check document | .run document _ _ => some document

namespace World

variable (world : World) {arguments : List String} {manner : Manner} {task : Task} {document : Path}

section Asked

variable (asked : Invocation.ofArguments arguments = .perform manner task)
  (about : task.document? = some document)
include asked about

/-- A task about a document goes on with its plan. -/
theorem exists_perform_eq_withPlan :
    ∃ act, world.perform arguments = world.withPlan manner document act := by
  rw [perform, asked]
  cases task with
  | create => cases about
  | _ =>
      cases about
      exact ⟨_, rfl⟩

end Asked

end World

/-- A document without front matter, which is told to be invalid. -/
def bare : World := .holding "d.md" "A text.\n"

/-- A document whose front matter has a number for a key. -/
def numbered : World := .holding "d.md" "---\ndeployDoc: true\n1: x\n---\n"

end Command

end Runbook
