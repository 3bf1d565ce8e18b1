import Runbook.Proofs.Command.Table
import Runbook.Proofs.Disk.Name
import Runbook.Proofs.Plan.Invalid

/-!
# Exit codes of a run

As plain data an invalid document decides over the exit code of a run, and otherwise the table does.
Up to the absent variables nothing is run, and a check of the document says the same. This needs a
disk that looks for the document: of a name that it refuses nothing is said at all.
-/

namespace Runbook

namespace Command

theorem readLine_operand {κ : Type} (switches : List (Switch κ)) {name : String}
    (plain : givesOptions name = false) : readLine switches true [name] = some ⟨[], [name]⟩ := by
  have undashed : name ≠ "--" := by
    rintro rfl
    exact absurd plain (by decide)
  have operand : ¬givesOptions name = true := by simp [plain]
  unfold readLine
  rw [if_neg undashed, if_neg operand]
  rfl

/-- A name that is no option is the document of a run that reports plain data. -/
theorem Invocation.ofArguments_json_run {name : String} (plain : givesOptions name = false) :
    ofArguments ["--json", "run", name] =
      perform ⟨0, false, true, false⟩ (.run (.ofText name) (.ofText Settings.fileName) false) := by
  have shared : readLine sharedSwitches false ["--json", "run", name] =
      some ⟨[⟨.asData, none⟩], ["run", name]⟩ := rfl
  have task : ofTask ⟨0, false, true, false⟩ "run" [name] =
      perform ⟨0, false, true, false⟩ (.run (.ofText name) (.ofText Settings.fileName) false) := by
    simp [ofTask, taskSwitches?, readLine_operand _ plain]
    rfl
  unfold ofArguments
  rw [shared]
  exact task

/-- Whether a null character stands in what settings give to a runner. -/
def holdsNull (settings : Settings) : Bool :=
  settings.shell.toList.contains '\x00' ||
    settings.workingDir.any fun path => path.text.toList.contains '\x00'

/-- A runner with settings is only at a loss where a null character is given to it. -/
def FaultsOnNull (runner : Runner Disk) (settings : Settings) : Prop :=
  ∀ disk command fault, (runner disk command).1.ending = .faulted fault →
    holdsNull settings = true ∨ '\x00' ∈ command.toList

theorem FaultsOnNull.not_faulted {runner : Runner Disk} {settings : Settings}
    (law : FaultsOnNull runner settings) (plain : holdsNull settings = false) {plan : Plan}
    {disk : Disk} (commands : ∀ call ∈ plan.course runner disk, '\x00' ∉ call.step.shell.toList) :
    ∀ call ∈ plan.course runner disk, call.isFaulted = false := by
  intro call mem
  obtain ⟨before, reply⟩ := runner.exists_reply_of_mem_course mem
  cases ending : call.reply.ending with
  | exited status => simp [Call.isFaulted, ending]
  | notStarted reason => simp [Call.isFaulted, ending]
  | faulted fault =>
      rw [reply] at ending
      obtain null | null := law before call.step.shell fault ending
      · simp [plain] at null
      · exact absurd null (commands call mem)

namespace World

variable (world : World) {arguments checking : List String} {manner inspecting : Manner}
  {document config : Path} {settings : Settings}

section Started

/-- What a run does is decided by its document and its settings. -/
theorem perform_run {dry : Bool}
    (asked : Invocation.ofArguments arguments = .perform manner (.run document config dry)) :
    world.perform arguments = world.runDocument manner document config dry := by
  rw [perform, asked]
  rfl

theorem perform_show {output : Option Path}
    (asked : Invocation.ofArguments arguments = .perform manner (.show document output)) :
    world.perform arguments = world.showPlan manner document output := by
  rw [perform, asked]
  rfl

/-- A document with an error that is reported is invalid, whatever was to be done with its plan. -/
theorem withPlan_of_error {error : PlanError}
    (h : Plan.ofFile world.disk world.home document = .error error)
    (reported : error.isReported = true) (manner : Manner) (act : Plan → Transcript) :
    world.withPlan manner document act =
      world.reply .invalidDocument
        [(world.reporter manner).error error.message [("file", .str document.text)]] := by
  rw [withPlan, h]
  cases error with
  | notFound path => rfl
  | unreadable path reason => rfl
  | badMetadata file => rfl
  | inactive file => rfl
  | badPath path => cases reported
  | invalid problems => cases reported

theorem withPlan_of_ok {plan : Plan}
    (h : Plan.ofFile world.disk world.home document = .ok plan) (act : Plan → Transcript) :
    world.withPlan manner document act = act plan := by
  rw [withPlan, h]

section Asked

variable
  (asked : Invocation.ofArguments arguments = .perform manner (.run document config false))
include asked

/-- A run of a document with a plan and settings is a run of the plan. -/
theorem perform_run_of_ok {plan : Plan}
    (planned : Plan.ofFile world.disk world.home document = .ok plan)
    (loaded : Settings.load world.disk world.home config = .ok settings) :
    world.perform arguments = world.runPlan manner plan settings := by
  rw [world.perform_run asked, runDocument, world.withPlan_of_ok planned]
  simp [loaded]

end Asked

end Started

section Absent

variable {plan : Plan} (lacking : plan.absent world.environment ≠ [])
include lacking

/-- A run with absent variables is not started. -/
theorem runPlan_of_absent (manner : Manner) (settings : Settings) :
    world.runPlan manner plan settings =
      world.reply .missingVariables
        [(world.reporter manner).error (missingMessage (plan.absent world.environment))
          (missingData (plan.absent world.environment))] := by
  rw [runPlan, Session.runPlan_of_absent _ _ _ _ _ lacking]
  rfl

end Absent

end World

/-- A runner that is at a loss where a null character is given to it, and that else ends commands
with status zero but for one. -/
def plainRunner : Runner Disk := fun disk command =>
  (⟨if '\x00' ∈ command.toList then .faulted .nullCharacter
    else .exited (if command = "exit 3\n" then 3 else 0), "", ""⟩, disk)

/-- A world with one document in it. -/
def World.holding (name text : String) : World :=
  { disk := ⟨[([name], .file (Text.encodeUtf8 text.toList) false)]⟩, home := [], environment := []
    clock := [], runner := fun _ => plainRunner }

/-- A plan is known up to its metadata if its variables and its steps are. -/
theorem exists_metadata_of_parts {result : Except PlanError Plan} {vars : List String}
    {steps : PerPhase (List Step)}
    (parts : result.toOption.map (fun plan => (plan.requiredVars, plan.steps)) =
      some (vars, steps)) : ∃ metadata, result = .ok ⟨metadata, vars, steps⟩ := by
  cases result with
  | error error => cases parts
  | ok plan =>
      obtain ⟨metadata, required, steps⟩ := plan
      cases parts
      exact ⟨metadata, rfl⟩

/-- A world whose document has a test that fails. -/
def trial : World :=
  .holding "d.md" "---\ndeployDoc: true\n---\n<!-- deploy-doc run-tests -->\n```\nexit 3\n```\n"

theorem exists_plan_trial :
    ∃ metadata, Plan.ofFile trial.disk trial.home (.ofText "d.md") =
      .ok ⟨metadata, [], ⟨[], [], [⟨"d.md", ⟨5, 7⟩, "exit 3\n"⟩], []⟩⟩ :=
  exists_metadata_of_parts (by decide +kernel)

end Command

end Runbook
