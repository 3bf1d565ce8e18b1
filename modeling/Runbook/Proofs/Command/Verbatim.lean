import Runbook.Proofs.Command.Presentation
import Runbook.Proofs.Command.Rehearsal
import Runbook.Proofs.Console.Plain

/-!
# What a plan shows of its steps

The plan of a document is shown where it is asked for, also if it is written to a file, and where a
run is rehearsed. As text the outline is shown part by part, so that the shell text of a step stands
behind the line with its place. It stands there verbatim if it fits the console and has no code of
a picture.
-/

namespace Runbook

/-- The parts of the outline of a plan; a shell text is one of them, whatever lines it has. -/
def Plan.outlineParts (plan : Plan) : List String :=
  ["Deployment test plan:", "", "Required environment parameters"]
    ++ plan.requiredVars.map (fun name => "  - " ++ name) ++ Phase.all.flatMap plan.phaseLines

theorem Plan.outline_eq (plan : Plan) : plan.outline = "\n".intercalate plan.outlineParts := rfl

/-- Every step has its place and its shell text in the outline. -/
theorem Plan.exists_outlineParts_of_mem {plan : Plan} {step : Step} (mem : step ∈ plan.allSteps) :
    ∃ before behind,
      plan.outlineParts = before ++ ("- " ++ step.identity) :: step.shell :: behind := by
  obtain ⟨phase, listed, inPhase⟩ := List.mem_flatMap.mp mem
  obtain ⟨earlier, later, phases⟩ := List.append_of_mem listed
  obtain ⟨first, rest, steps⟩ := List.append_of_mem inPhase
  let lines (step : Step) : List String := ["- " ++ step.identity, step.shell]
  refine ⟨["Deployment test plan:", "", "Required environment parameters"]
    ++ plan.requiredVars.map (fun name => "  - " ++ name) ++ earlier.flatMap plan.phaseLines
    ++ ("Steps in phase " ++ phase.name ++ ":") :: first.flatMap lines,
    rest.flatMap lines ++ later.flatMap plan.phaseLines, ?_⟩
  rw [outlineParts, phases, List.flatMap_append, List.flatMap_cons, phaseLines, steps]
  simp [lines]

namespace Command

/-- The reports up to the first that cannot be written only add to the output. -/
theorem exists_out_conclude (transcript : Transcript)
    (reports : List (Except Console.MarkupFault String)) :
    ∃ behind, (conclude transcript reports).out = transcript.out ++ behind := by
  induction reports generalizing transcript with
  | nil => exact ⟨"", String.append_empty.symm⟩
  | cons report reports ih =>
      cases report with
      | error fault => exact ⟨"", String.append_empty.symm⟩
      | ok text =>
          obtain ⟨behind, more⟩ := ih { transcript with out := transcript.out ++ text }
          exact ⟨text ++ behind, by rw [conclude, more, String.append_assoc]⟩

namespace World

/-- The tasks that show the plan of a document: the one that shows it, where writing it to a file
does not fail, and the rehearsal of a run. -/
inductive Shows (world : World) (document : Path) (plan : Plan) : Task → Prop
  | asked : Shows world document plan (.show document none)
  | saved {path : Path} {disk : Disk}
    (written : world.disk.write world.home path.text
      (Text.encodeUtf8 (plan.dataText (some 2) ++ "\n").toList) = .ok disk) :
    Shows world document plan (.show document (some path))
  | rehearsed {config : Path} {settings : Settings}
    (loaded : Settings.load world.disk world.home config = .ok settings) :
    Shows world document plan (.run document config true)

variable (world : World) {arguments : List String} {manner : Manner} {task : Task} {document : Path}
  {plan : Plan} (planned : Plan.ofFile world.disk world.home document = .ok plan)
include planned

/-- The whole outline stands in the output of a task that shows the plan. -/
theorem exists_out_of_shows (shows : world.Shows document plan task)
    (asked : Invocation.ofArguments arguments = .perform manner task) :
    ∃ lead behind, (world.perform arguments).out =
      lead ++ (world.reporter manner).printRaw plan.outline ++ behind := by
  cases shows with
  | asked =>
      refine ⟨(world.reporter manner).printData plan.data, "", ?_⟩
      rw [world.out_perform_show planned asked, String.append_empty]
  | saved written =>
      rw [world.perform_show asked, world.showPlan_of_written planned written]
      simp only [reply, conclude, String.empty_append]
      obtain ⟨behind, more⟩ := exists_out_conclude _ _
      exact ⟨_, behind, more⟩
  | rehearsed loaded =>
      obtain ⟨lead, -, performed⟩ := world.exists_perform_rehearsal planned asked loaded
      exact ⟨lead, "", by rw [performed, String.append_empty]⟩

end World

end Command

open Console Command in
/-- As text a fitting message is shown verbatim if and only if the console has cells and the message
has no code of a known picture; its codes are replaced, and nothing else is changed. Where the plan
of a document is shown, so is each of the parts of its outline, and among them, behind its place,
each fitting shell text without such codes, verbatim. -/
theorem Reporter.shows_verbatim (reporter : Reporter) (text : reporter.asData = false) :
    (∀ message : String, Fits reporter.cells message.toList →
      (reporter.printRaw message = message ++ "\n" ↔
        0 < reporter.cells ∧ Uncoded message.toList) ∧
      (0 < reporter.cells →
        reporter.printRaw message = String.ofList (replaceCodes message.toList) ++ "\n")) ∧
    ∀ (world : World) (manner : Manner), world.reporter manner = reporter →
      ∀ (document : Path) (plan : Plan) (task : Task) (arguments : List String),
        Plan.ofFile world.disk world.home document = .ok plan →
        world.Shows document plan task →
        Invocation.ofArguments arguments = .perform manner task →
        (∃ lead behind, (world.perform arguments).out =
          lead ++ String.join (plan.outlineParts.map reporter.printRaw) ++ behind) ∧
        ∀ step ∈ plan.allSteps, 0 < reporter.cells → Fits reporter.cells step.shell.toList →
          Uncoded step.shell.toList →
          ∃ before behind, (world.perform arguments).out =
            before ++ reporter.printRaw ("- " ++ step.identity) ++ (step.shell ++ "\n")
              ++ behind := by
  constructor
  · intro message fits
    refine ⟨printRaw_eq_iff text fits, fun filled => ?_⟩
    rw [printRaw_of_fits text fits, if_neg (Nat.ne_of_gt filled)]
  · rintro world manner rfl document plan task arguments planned shows asked
    have shown : (world.reporter manner).printRaw plan.outline =
        String.join (plan.outlineParts.map (world.reporter manner).printRaw) := by
      rw [plan.outline_eq, printRaw_intercalate text (by simp [Plan.outlineParts])]
    obtain ⟨lead, behind, whole⟩ := world.exists_out_of_shows planned shows asked
    rw [shown] at whole
    refine ⟨⟨lead, behind, whole⟩, fun step mem filled fits uncoded => ?_⟩
    obtain ⟨first, rest, parts⟩ := Plan.exists_outlineParts_of_mem mem
    have verbatim := (printRaw_eq_iff text fits).mpr ⟨filled, uncoded⟩
    refine ⟨lead ++ String.join (first.map (world.reporter manner).printRaw),
      String.join (rest.map (world.reporter manner).printRaw) ++ behind, ?_⟩
    rw [whole, parts, List.map_append, List.map_cons, List.map_cons, verbatim, String.join_append,
      String.join_cons, String.join_cons]
    simp only [String.append_assoc]

/-- The test that fails is shown as it is where its plan is shown and where its run is rehearsed. -/
theorem shows_verbatim_trial :
    let step : Step := ⟨"d.md", ⟨5, 7⟩, "exit 3\n"⟩
    let place := (⟨80, false⟩ : Reporter).printRaw ("- " ++ step.identity)
    (∃ before behind, (Command.trial.perform ["plan", "d.md"]).out =
      before ++ place ++ ("exit 3\n" ++ "\n") ++ behind) ∧
    ∃ before behind, (Command.trial.perform ["run", "d.md", "--dry-run"]).out =
      before ++ place ++ ("exit 3\n" ++ "\n") ++ behind := by
  intro step place
  obtain ⟨metadata, planned⟩ := Command.exists_plan_trial
  have showing : Command.Invocation.ofArguments ["plan", "d.md"] =
      .perform ⟨0, false, false, false⟩ (.show (.ofText "d.md") none) := by decide
  have asked : Command.Invocation.ofArguments ["run", "d.md", "--dry-run"] =
      .perform ⟨0, false, false, false⟩
        (.run (.ofText "d.md") (.ofText Settings.fileName) true) := by decide
  have loaded : Settings.load Command.trial.disk Command.trial.home (.ofText Settings.fileName) =
      .ok .default := rfl
  have mem : step ∈ (⟨metadata, [], ⟨[], [], [step], []⟩⟩ : Plan).allSteps :=
    List.mem_singleton_self step
  have fits : Console.Fits 80 "exit 3\n".toList := by decide
  have uncoded : Console.Uncoded "exit 3\n".toList :=
    Console.uncoded_of_colon_not_mem (by decide)
  obtain ⟨-, shown⟩ := Reporter.shows_verbatim ⟨80, false⟩ rfl
  have tested (task : Command.Task) (arguments : List String) :=
    shown Command.trial ⟨0, false, false, false⟩ rfl (.ofText "d.md") _ task arguments planned
  exact ⟨(tested _ _ .asked showing).2 step mem (by decide) fits uncoded,
    (tested _ _ (.rehearsed loaded) asked).2 step mem (by decide) fits uncoded⟩

/-- The code of a picture is replaced in a plain text, although it fits. -/
theorem printRaw_coded :
    Console.Fits 80 ":x:".toList ∧ (⟨80, false⟩ : Reporter).printRaw ":x:" = "❌" ++ "\n" ∧
      (⟨80, false⟩ : Reporter).printRaw ":x:" ≠ ":x:" ++ "\n" := by
  have fits : Console.Fits 80 ":x:".toList := by decide
  have found : Console.codeName? ['x', ':'] = some (['x'], []) := by decide
  have known : Console.picture? ['x'] = some ['❌'] := by decide +kernel
  have replaced : Console.replaceCodes ":x:".toList = ['❌'] := by
    have letters : ":x:".toList = [':', 'x', ':'] := by decide
    rw [letters, Console.replaceCodes_of_code found, known, Console.replaceCodes]
    rfl
  have shown : (⟨80, false⟩ : Reporter).printRaw ":x:" = "❌" ++ "\n" := by
    rw [Reporter.printRaw_of_fits rfl fits, replaced]
    rfl
  refine ⟨fits, shown, ?_⟩
  rw [shown]
  decide

end Runbook
