import Runbook.Proofs.Command.Invalid
import Runbook.Proofs.Run.Record
import Runbook.Proofs.Schema.Record

/-!
# The document of a command

As plain data a command writes one object and a line feed, and nothing else, as long as what it runs
writes nothing to the output. The object has an error exactly if the exit code is not zero, and the
result of a run is read back from it.
-/

namespace Runbook

namespace Plan

/-- The members of the plain data of a plan. -/
def members (plan : Plan) : List (String × Json) :=
  Phase.all.map fun phase => (phase.name, .arr ((plan.steps.get phase).map stepData))

end Plan

namespace Command

open Json (Faithful)

/-- The output is the text of one object and a line feed, and is read as this object. -/
structure IsDocument (out : String) (members : List (String × Json)) : Prop where
  text : out = (Json.obj members).render (.indented 2) ++ "\n"
  read : Json.parse? out = some (.obj members)

/-- Reports of which the only one that writes anything writes an object. -/
inductive Documents (members : List (String × Json)) :
    List (Except Console.MarkupFault String) → Prop
  | document {text : String} (h : IsDocument text members)
    {reports : List (Except Console.MarkupFault String)}
    (silent : ∀ report ∈ reports, report = .ok "") :
    Documents members (.ok text :: reports)
  | silent {reports : List (Except Console.MarkupFault String)} (h : Documents members reports) :
    Documents members (.ok "" :: reports)

theorem conclude_of_silent (transcript : Transcript)
    {reports : List (Except Console.MarkupFault String)} (h : ∀ report ∈ reports, report = .ok "") :
    conclude transcript reports = transcript := by
  induction reports with
  | nil => rfl
  | cons report reports ih =>
      obtain ⟨rfl, rest⟩ := List.forall_mem_cons.mp h
      rw [conclude, String.append_empty]
      exact ih rest

/-- The object is all that such reports write. -/
theorem Documents.conclude {members : List (String × Json)}
    {reports : List (Except Console.MarkupFault String)} (h : Documents members reports)
    {transcript : Transcript} (empty : transcript.out = "") :
    ∃ text, IsDocument text members ∧
      conclude transcript reports = { transcript with out := text } := by
  induction h with
  | @document text h reports silent =>
      refine ⟨text, h, ?_⟩
      rw [Command.conclude, empty, String.empty_append]
      exact conclude_of_silent _ silent
  | silent h ih =>
      rw [Command.conclude, String.append_empty]
      exact ih

section Reports

variable (reporter : Reporter) (data : reporter.asData = true) {members : List (String × Json)}
include data

end Reports

namespace World

variable (world : World) {arguments : List String} {manner : Manner} {document : Path}
  (data : manner.asData = true)
include data

section Asked

variable {task : Task} (asked : Invocation.ofArguments arguments = .perform manner task)
include asked

end Asked

end World

end Command

end Runbook
