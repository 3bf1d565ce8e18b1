import Runbook.Json.Printer
import Runbook.Plan.Basic
import Runbook.Text.Line

/-!
# Outlines of a plan

Two views of a plan for reading: a text that lists the required variables and, for each phase, the
place and the shell text of its steps; and plain data that gives, for each phase, the spans and
the trimmed shell texts.
-/

namespace Runbook.Plan

/-- The lines of a phase in the text. -/
def phaseLines (plan : Plan) (phase : Phase) : List String :=
  ("Steps in phase " ++ phase.name ++ ":")
    :: (plan.steps.get phase).flatMap fun step => ["- " ++ step.identity, step.shell]

/-- The plan as text. -/
def outline (plan : Plan) : String :=
  "\n".intercalate
    (["Deployment test plan:", "", "Required environment parameters"]
      ++ plan.requiredVars.map (fun name => "  - " ++ name)
      ++ Phase.all.flatMap plan.phaseLines)

/-- A step in the plain data. -/
def stepData (step : Step) : Json :=
  .obj [("line_span", .arr [.int step.span.first, .int step.span.last]),
    ("shell", .str (Text.trimString step.shell))]

/-- The plan as plain data. -/
def data (plan : Plan) : Json :=
  .obj (Phase.all.map fun phase => (phase.name, .arr ((plan.steps.get phase).map stepData)))

/-- The plain data of the plan as a text. -/
def dataText (plan : Plan) (indent : Option Int) : String :=
  plan.data.render (Json.Layout.ofIndent indent)

end Runbook.Plan
