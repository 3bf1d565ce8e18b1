import Runbook.Command.Perform
import Runbook.Proofs.Console.Report
import Runbook.Proofs.Run.Ending

/-!
# What a command reports

Reports that can be written leave a verdict as it was reached, and one that is at fault is the
verdict itself. What is told of an error or of a run can be written, as text and as plain data, so
that how a run is judged depends on its ending alone.
-/

namespace Runbook

namespace Command

open Console (MarkupFault)

/-- Reports that can all be written. -/
def Written (reports : List (Except MarkupFault String)) : Prop :=
  ∀ report ∈ reports, ∃ text, report = .ok text

/-- Reports that can be written only add to the output. -/
theorem conclude_of_written (transcript : Transcript) {reports : List (Except MarkupFault String)}
    (h : Written reports) :
    ∃ text, conclude transcript reports = { transcript with out := transcript.out ++ text } := by
  induction reports generalizing transcript with
  | nil => exact ⟨"", by simp [conclude]⟩
  | cons report reports ih =>
      rw [Written, List.forall_mem_cons] at h
      obtain ⟨⟨first, rfl⟩, rest⟩ := h
      obtain ⟨text, later⟩ := ih { transcript with out := transcript.out ++ first } rest
      refine ⟨first ++ text, ?_⟩
      rw [conclude, later, String.append_assoc]

theorem verdict_conclude_of_written (transcript : Transcript)
    {reports : List (Except MarkupFault String)} (h : Written reports) :
    (conclude transcript reports).verdict = transcript.verdict := by
  obtain ⟨text, added⟩ := conclude_of_written transcript h
  rw [added]

theorem disk_conclude (transcript : Transcript) (reports : List (Except MarkupFault String)) :
    (conclude transcript reports).disk = transcript.disk := by
  induction reports generalizing transcript with
  | nil => rfl
  | cons report reports ih =>
      cases report with
      | ok text => exact ih _
      | error fault => rfl

theorem print_of_data (reporter : Reporter) (data : reporter.asData = true) (message : String)
    (style : Option String) : reporter.print message style = .ok "" := by
  simp [Reporter.print, data]

theorem printRaw_of_data (reporter : Reporter) (data : reporter.asData = true) (text : String) :
    reporter.printRaw text = "" := if_pos data

theorem printData_of_data (reporter : Reporter) (data : reporter.asData = true) (json : Json) :
    reporter.printData json = json.render (.indented 2) ++ "\n" := if_pos data

theorem printData_of_text (reporter : Reporter) (text : reporter.asData = false) (json : Json) :
    reporter.printData json = "" := by
  simp [Reporter.printData, text]

/-- An error can be reported. -/
theorem written_error (reporter : Reporter) (message : String) (members : List (String × Json)) :
    Written [reporter.error message members] := by
  simpa [Written] using reporter.exists_error message members

/-- The reports of a check can be written. -/
theorem written_counts (reporter : Reporter) (message : String) (members : List (String × Json))
    (counts : Phase → Nat) :
    Written (reporter.success message members ::
      (Phase.all.map fun phase => (phase.name, counts phase)).map fun count =>
        reporter.print ("  " ++ count.1 ++ ": " ++ toString count.2) none) := by
  refine List.forall_mem_cons.mpr ⟨reporter.exists_success message members, fun report mem => ?_⟩
  obtain ⟨_, listed, rfl⟩ := List.mem_map.mp mem
  obtain ⟨phase, -, rfl⟩ := List.mem_map.mp listed
  refine reporter.exists_print_of_shown (Console.StyledText.exists_ofMarkup_of_not_mem ?_)
  have named := Reporter.bracket_not_mem_name phase
  have numbered := Reporter.bracket_not_mem_toString (counts phase)
  simpa [named] using numbered

/-- The reports of a run can be written, however it ended. -/
theorem written_runReports (reporter : Reporter) (ending : RunEnding) :
    Written (runReports reporter ending).2 := by
  have failure := written_error reporter
  cases ending with
  | missing names => exact failure _ _
  | preparationFailed error => exact failure _ _
  | cleanupFailed error => exact failure _ _
  | faulted fault => simp [Written, runReports]
  | completed result =>
      have summary := reporter.exists_stepSummary result
      rw [runReports]
      cases result.failure with
      | some message => exact List.forall_mem_cons.mpr ⟨summary, failure _ _⟩
      | none => simpa [Written] using ⟨summary, reporter.exists_success _ _⟩

end Command

/-- The verdict on a run that ended in a given way. -/
def RunEnding.verdict : RunEnding → Command.Verdict
  | missing _ => .missingVariables
  | preparationFailed _ => .preparationFailed
  | cleanupFailed _ => .cleanupFailed
  | faulted fault => .crashed (.fault fault)
  | completed result => if result.failure.isSome then .failed else .done

theorem RunEnding.fst_runReports (reporter : Reporter) (ending : RunEnding) :
    (Command.runReports reporter ending).1 = ending.verdict := by
  cases ending with
  | completed result =>
      rw [Command.runReports, verdict]
      cases result.failure <;> rfl
  | _ => rfl

namespace Command.World

variable (world : World) (manner : Manner) (plan : Plan) (settings : Settings)

/-- How the commands of a run are run: as plain data, what they write goes with the errors. -/
def runnerFor : Runner Disk :=
  world.runner (if manner.asData then { settings with outputToStderr := true } else settings)

/-- How a run of a plan ends. -/
def ending : RunEnding :=
  ((Session.start world.disk world.clock (some [])).runPlan (world.runnerFor manner settings)
    settings.showCommands plan world.environment).1

/-- The session that a run of a plan leaves. -/
def session : Session Disk :=
  ((Session.start world.disk world.clock (some [])).runPlan (world.runnerFor manner settings)
    settings.showCommands plan world.environment).2

/-- What a run of a plan comes to before it is reported. -/
def unreported : Transcript :=
  let texts := (world.session manner plan settings).events.map
    (eventText world.cells (Verbosity.ofFlags manner.verbose manner.quiet))
  ⟨(world.ending manner plan settings).verdict, String.join (texts.map (·.1)),
    String.join (texts.map (·.2)), (world.session manner plan settings).runnerState⟩

/-- A run comes to the verdict on its ending, and then reports it. -/
theorem runPlan_eq_conclude :
    world.runPlan manner plan settings =
      conclude (world.unreported manner plan settings)
        (runReports (world.reporter manner) (world.ending manner plan settings)).2 := by
  have shown : (if manner.asData then { settings with outputToStderr := true }
      else settings).showCommands = settings.showCommands := by split <;> rfl
  rw [runPlan, shown, unreported, ← RunEnding.fst_runReports (world.reporter manner)]
  rfl

/-- A run is judged by its ending. -/
theorem verdict_runPlan :
    (world.runPlan manner plan settings).verdict = (world.ending manner plan settings).verdict := by
  rw [runPlan_eq_conclude]
  exact verdict_conclude_of_written _ (written_runReports _ _)

end Command.World

end Runbook
