import Runbook.Document.Directive
import Runbook.Plan.Phase
import Runbook.Plan.Step
import Runbook.Schema.Metadata

/-!
# Plans

A plan holds the decoded metadata of a document, the variables that its markers require, and the
steps of every phase in document order.
-/

namespace Runbook

/-- What a document asks to be run. -/
structure Plan where
  metadata : Metadata
  requiredVars : List String
  steps : PerPhase (List Step)
  deriving Repr

namespace Plan

/-- The kind of markers that require variables. -/
def requireKind : String := "require-env"

/-- The parameters of all markers that require variables, in order. -/
def requiredVarsOf (directives : List Directive) : List String :=
  (directives.filter fun directive => directive.kind = requireKind).flatMap (·.params)

/-- The step that a directive describes. -/
def stepOf (directive : Directive) : Step :=
  ⟨directive.source, directive.span, directive.content⟩

/-- The steps of a phase: the directives whose kind is its name. -/
def stepsOf (directives : List Directive) (phase : Phase) : List Step :=
  (directives.filter fun directive => directive.kind = phase.name).map stepOf

/-- The plan of a document with the given metadata and directives. -/
def ofDirectives (metadata : Metadata) (directives : List Directive) : Plan :=
  ⟨metadata, requiredVarsOf directives, PerPhase.ofFn (stepsOf directives)⟩

/-- The steps of all phases, in the order in which the phases run. -/
def allSteps (plan : Plan) : List Step := Phase.all.flatMap plan.steps.get

/-- The number of steps. -/
def stepCount (plan : Plan) : Nat := plan.allSteps.length

/-- The required variables that an environment lacks, in order and with repetitions. -/
def missingVars (plan : Plan) (environment : List (String × String)) : List String :=
  plan.requiredVars.filter fun name => !environment.any fun entry => entry.1 = name

end Plan

end Runbook
