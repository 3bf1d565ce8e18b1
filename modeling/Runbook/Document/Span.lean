import Runbook.Number.Written

/-!
# Line spans

A span names the first and the last line of a part of a document, both counted from one.
-/

namespace Runbook

/-- The lines from `first` to `last`, both included. -/
structure Span where
  first : Int
  last : Int
  deriving DecidableEq, Repr, Inhabited

namespace Span

/-- The span of one line. -/
def line (n : Int) : Span := ⟨n, n⟩

/-- The place of a span in a named document, as it is shown to readers. -/
def locate (source : String) (span : Span) : String :=
  source ++ ":" ++ decimalText span.first ++ "-" ++ decimalText span.last

end Span

end Runbook
