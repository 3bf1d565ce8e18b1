import Runbook.Document.Span

/-!
# Steps

A step is a piece of shell text with its place in a document.
-/

namespace Runbook

/-- One shell block to be run. -/
structure Step where
  source : String
  span : Span
  shell : String
  deriving DecidableEq, Repr, Inhabited

namespace Step

/-- The place of a step, which names it in reports. -/
def identity (step : Step) : String := step.span.locate step.source

end Step

end Runbook
