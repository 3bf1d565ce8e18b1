import Runbook.Proofs.Command.Exit

/-!
# Rehearsals of a run

A rehearsal of a run shows the plan in place of running it. As text it writes what showing the plan
writes, behind a line of its own. As plain data both of its reports are suppressed, so that it
writes nothing where showing the plan writes its data.
-/

namespace Runbook

namespace Command

namespace World

variable (world : World) {arguments others : List String} {manner other : Manner}
  {document config : Path} {plan : Plan} {settings : Settings}

section Planned

variable (planned : Plan.ofFile world.disk world.home document = .ok plan)
include planned

/-- A plan is shown as data and as a text, of which one is suppressed. -/
theorem out_perform_show
    (asked : Invocation.ofArguments arguments = .perform manner (.show document none)) :
    (world.perform arguments).out =
      (world.reporter manner).printData plan.data ++
        (world.reporter manner).printRaw plan.outline := by
  rw [world.perform_show asked, showPlan, world.withPlan_of_ok planned]
  simp [reply, conclude]

variable (asked : Invocation.ofArguments arguments = .perform manner (.run document config true))
  (loaded : Settings.load world.disk world.home config = .ok settings)
include asked loaded

/-- A rehearsal replies with a line of its own and the plan as a text, whatever the environment and
the runner are. -/
theorem exists_perform_rehearsal :
    ∃ lead, (world.reporter manner).print "[cyan][DRY RUN][/cyan] Would run:" none = .ok lead ∧
      world.perform arguments =
        ⟨.done, lead ++ (world.reporter manner).printRaw plan.outline, "", world.disk⟩ := by
  obtain ⟨lead, headed⟩ := (world.reporter manner).exists_print_of_shown
    Console.StyledText.exists_ofMarkup_rehearsal
  refine ⟨lead, headed, ?_⟩
  rw [world.perform_run asked, runDocument, world.withPlan_of_ok planned]
  simp [loaded, headed, reply, conclude]

/-- As plain data a rehearsal writes nothing. -/
theorem out_perform_rehearsal_of_data (data : manner.asData = true) :
    (world.perform arguments).out = "" := by
  obtain ⟨lead, headed, performed⟩ := world.exists_perform_rehearsal planned asked loaded
  have silent := print_of_data (world.reporter manner) data "[cyan][DRY RUN][/cyan] Would run:" none
  obtain rfl : "" = lead := Except.ok.inj (silent.symm.trans headed)
  rw [performed]
  exact printRaw_of_data (world.reporter manner) data _

end Planned

/-- A rehearsal of a run succeeds, leaves the disk as it is, and is the same whatever runs commands.
As text it writes all that is written where the plan is shown. As plain data it writes nothing, and
where the plan is shown its data is written. -/
theorem perform_rehearsal
    (asked : Invocation.ofArguments arguments = .perform manner (.run document config true))
    (showing : Invocation.ofArguments others = .perform other (.show document none))
    (same : other.asData = manner.asData)
    (planned : Plan.ofFile world.disk world.home document = .ok plan)
    (loaded : Settings.load world.disk world.home config = .ok settings) :
    let rehearsed := world.perform arguments
    let shown := world.perform others
    rehearsed.verdict.exitCode = 0 ∧ rehearsed.disk = world.disk ∧
      (∀ runner, { world with runner }.perform arguments = rehearsed) ∧
      (manner.asData = false →
        shown.out = (world.reporter manner).printRaw plan.outline ∧
          ∃ lead, rehearsed.out = lead ++ shown.out) ∧
      (manner.asData = true →
        shown.out = plan.data.render (.indented 2) ++ "\n" ∧ rehearsed.out = "") := by
  intro rehearsed shown
  obtain ⟨lead, headed, performed⟩ := world.exists_perform_rehearsal planned asked loaded
  have reporters : world.reporter other = world.reporter manner := by
    rw [reporter, reporter, same]
  have told := world.out_perform_show planned showing
  rw [reporters] at told
  refine ⟨?_, ?_, ?_, ?_, ?_⟩
  · simp only [rehearsed, performed, Verdict.exitCode]
  · simp only [rehearsed, performed]
  · intro runner
    obtain ⟨lead', headed', performed'⟩ :=
      { world with runner }.exists_perform_rehearsal planned asked loaded
    obtain rfl : lead = lead' := Except.ok.inj (headed.symm.trans headed')
    exact performed'.trans performed.symm
  · intro text
    have outline : shown.out = (world.reporter manner).printRaw plan.outline := by
      rw [told, printData_of_text (world.reporter manner) text, String.empty_append]
    refine ⟨outline, lead, ?_⟩
    simp only [rehearsed, performed, outline]
  · intro data
    constructor
    · rw [told, printData_of_data (world.reporter manner) data,
        printRaw_of_data (world.reporter manner) data, String.append_empty]
    · exact world.out_perform_rehearsal_of_data planned asked loaded data

end World

/-- The trial fails if it is run, and its rehearsal shows it. -/
theorem perform_rehearsal_trial :
    let rehearsed := trial.perform ["run", "d.md", "--dry-run"]
    rehearsed.verdict.exitCode = 0 ∧
      ∃ lead, rehearsed.out = lead ++ (trial.perform ["plan", "d.md"]).out := by
  obtain ⟨metadata, planned⟩ := exists_plan_trial
  have asked : Invocation.ofArguments ["run", "d.md", "--dry-run"] =
      .perform ⟨0, false, false, false⟩
        (.run (.ofText "d.md") (.ofText Settings.fileName) true) := by decide
  have showing : Invocation.ofArguments ["plan", "d.md"] =
      .perform ⟨0, false, false, false⟩ (.show (.ofText "d.md") none) := by decide
  have loaded : Settings.load trial.disk trial.home (.ofText Settings.fileName) =
      .ok .default := rfl
  obtain ⟨code, -, -, text, -⟩ := trial.perform_rehearsal asked showing rfl planned loaded
  exact ⟨code, (text rfl).2⟩

/-- As plain data its rehearsal does not. -/
theorem out_rehearsal_trial :
    (trial.perform ["--json", "run", "d.md", "--dry-run"]).out = "" ∧
      ¬∃ lead behind, (trial.perform ["--json", "run", "d.md", "--dry-run"]).out =
        lead ++ (trial.perform ["--json", "plan", "d.md"]).out ++ behind := by
  obtain ⟨metadata, planned⟩ := exists_plan_trial
  have asked : Invocation.ofArguments ["--json", "run", "d.md", "--dry-run"] =
      .perform ⟨0, false, true, false⟩
        (.run (.ofText "d.md") (.ofText Settings.fileName) true) := by decide
  have showing : Invocation.ofArguments ["--json", "plan", "d.md"] =
      .perform ⟨0, false, true, false⟩ (.show (.ofText "d.md") none) := by decide
  have loaded : Settings.load trial.disk trial.home (.ofText Settings.fileName) =
      .ok .default := rfl
  have nothing := trial.out_perform_rehearsal_of_data planned asked loaded rfl
  refine ⟨nothing, ?_⟩
  rintro ⟨lead, behind, contained⟩
  rw [nothing, trial.out_perform_show planned showing] at contained
  have feed := congrArg String.toList contained
  rw [printData_of_data (trial.reporter _) rfl] at feed
  simp at feed

end Command

end Runbook
