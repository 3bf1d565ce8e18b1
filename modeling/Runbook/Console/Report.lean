import Runbook.Console.Highlight
import Runbook.Console.Markup
import Runbook.Console.Table
import Runbook.Json.Printer
import Runbook.Run.Result
import Runbook.Schema.Dump

/-!
# Reports

A command reports to a console of some width, as text or as plain data. As plain data only the one
document of the command is written; as text everything else is. A report fails only when its marked
text or its style is at fault.
-/

namespace Runbook

/-- Where and how a command reports. -/
structure Reporter where
  cells : Nat
  asData : Bool
  deriving DecidableEq, Repr

namespace Reporter

open Console

/-- The text of a marked message on a console. -/
def markedText (cells : Nat) (message : String) : Except MarkupFault String :=
  (StyledText.ofMarkup message.toList).map fun text =>
    printed cells ((text.wrap cells .fold).map StyledText.pieces)

/-- Reports a marked message, in a style if one is given. -/
def print (reporter : Reporter) (message : String) (style : Option String) :
    Except MarkupFault String :=
  if reporter.asData then .ok ""
  else
    (StyledText.ofMarkup message.toList).bind fun text =>
      match style.map shownStyle with
      | some (.error fault) => .error fault
      | _ =>
        let lines := (text.highlight messagePatterns).wrap reporter.cells .fold
        .ok (printed reporter.cells (lines.map StyledText.pieces))

/-- Reports a text as it is, but for the codes of pictures. -/
def printRaw (reporter : Reporter) (text : String) : String :=
  if reporter.asData then ""
  else
    printed reporter.cells
      (((StyledText.plain text.toList).wrap reporter.cells .fold).map StyledText.pieces)

/-- Reports the document of the command. -/
def printData (reporter : Reporter) (data : Json) : String :=
  if reporter.asData then data.render (.indented 2) ++ "\n" else ""

/-- Reports a message that is not marked, inside the given marks. -/
def printWithin (reporter : Reporter) (before message after : String) : Except MarkupFault String :=
  markedText reporter.cells (before ++ String.ofList (escape message.toList) ++ after)

/-- Reports a failure with what belongs to it. -/
def error (reporter : Reporter) (message : String) (data : List (String × Json)) :
    Except MarkupFault String :=
  if reporter.asData then
    .ok (reporter.printData (.obj (Json.mergeMembers [("error", .str message)] data)))
  else reporter.printWithin "[red]Error: " message "[/red]"

/-- Reports a success with what belongs to it. -/
def success (reporter : Reporter) (message : String) (data : List (String × Json)) :
    Except MarkupFault String :=
  if reporter.asData then
    .ok (reporter.printData (.obj (Json.mergeMembers [("success", .str message)] data)))
  else reporter.printWithin "[green]" message "[/green]"

/-- The columns of the table of steps. -/
def stepColumns : List Column :=
  [⟨"Phase".toList, .left⟩, ⟨"Step".toList, .left⟩, ⟨"Exit".toList, .right⟩,
    ⟨"Time".toList, .right⟩]

/-- The marked cells of a step. -/
def stepCells (result : StepResult) : List (List Char) :=
  [result.phase.name.toList, escape result.step.toList,
    (match result.exitCode with
      | some status => decimalText status
      | none => "-").toList,
    (decimalText result.durationMs ++ " ms").toList]

/-- The texts of the cells of a step. -/
def stepTexts (result : StepResult) : Except MarkupFault (List (List Char)) :=
  (stepCells result).mapM fun cell => (StyledText.ofMarkup cell).map StyledText.text

/-- Reports the steps of a run. -/
def stepSummary (reporter : Reporter) (result : RunResult) : Except MarkupFault String :=
  if reporter.asData || result.steps.isEmpty then .ok ""
  else
    (result.steps.mapM stepTexts).map fun rows =>
      printed reporter.cells (tableLines reporter.cells "Steps".toList stepColumns rows)

end Reporter

end Runbook
