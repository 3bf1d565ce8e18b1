import Runbook.Proofs.Command.Infrastructure
import Runbook.Proofs.Command.Invalid
import Runbook.Proofs.Run.Alike

/-!
# Plain data is only a presentation

Whether a task reports as text or as plain data, the same commands are run, the same files are
written and the same verdict is reached. Only the path of a plan that was written is reported
unescaped, so that as text this report can be at fault.
-/

namespace Runbook

/-- A run itself is not a matter of marked text. -/
theorem RunEnding.verdict_ne_markup (ending : RunEnding) (fault : Console.MarkupFault) :
    ending.verdict ≠ .crashed (.markup fault) := by
  cases ending with
  | completed result =>
      rw [verdict]
      split <;> simp
  | _ => simp [verdict]

namespace Command

section Arguments

/-- The invocation that reports plain data. -/
def Invocation.asData : Invocation → Invocation
  | .perform manner task => .perform { manner with asData := true } task
  | invocation => invocation

theorem readLine_json (arguments : List String) :
    readLine sharedSwitches false ("--json" :: arguments) =
      (readLine sharedSwitches false arguments).map (Line.withOption ⟨.asData, none⟩) := by
  have option : optionsIn sharedSwitches "--json" = some ([⟨.asData, none⟩], none) := by decide
  rw [readLine.eq_def]
  simp only [option]
  rfl

/-- Asking for the version or for help is not a matter of presentation. -/
theorem Invocation.asData_of_ofShared? {line : Line SharedKey} {invocation : Invocation}
    (h : ofShared? line = some invocation) : invocation.asData = invocation := by
  have mem := mem_of_ofShared? h
  simp only [List.mem_cons, List.not_mem_nil, or_false] at mem
  obtain rfl | rfl := mem <;> rfl

theorem Invocation.asData_getD_ofShared? (line? : Option (Line SharedKey)) :
    ((line?.bind ofShared?).getD .misused).asData = (line?.bind ofShared?).getD .misused := by
  cases shared : line?.bind ofShared? with
  | none => rfl
  | some invocation =>
      obtain ⟨line, -, found⟩ := Option.bind_eq_some_iff.mp shared
      exact asData_of_ofShared? found

theorem Invocation.ofTask_asData (manner : Manner) (name : String) (arguments : List String) :
    ofTask { manner with asData := true } name arguments =
      (ofTask manner name arguments).asData := by
  unfold ofTask
  split
  · rfl
  · split
    · rfl
    · split <;> rfl

/-- Behind the option for plain data a command line means the same. -/
theorem Invocation.ofArguments_json (arguments : List String) :
    ofArguments ("--json" :: arguments) = (ofArguments arguments).asData := by
  unfold ofArguments
  rw [readLine_json]
  cases readLine sharedSwitches false arguments with
  | none => rfl
  | some line =>
      -- The option is none of those that are looked for or counted, but for the one itself.
      have shared : ofShared? (line.withOption ⟨.asData, none⟩) = ofShared? line := rfl
      have operands : (line.withOption ⟨.asData, none⟩).operands = line.operands := rfl
      have manner : (⟨(line.withOption ⟨.asData, none⟩).count .verbose,
          (line.withOption ⟨.asData, none⟩).has .quiet,
          (line.withOption ⟨.asData, none⟩).has .asData,
          (line.withOption ⟨.asData, none⟩).has .plain⟩ : Manner) =
        { verbose := line.count .verbose, quiet := line.has .quiet, asData := true,
          plain := line.has .plain } := rfl
      simp only [Option.map_some, shared, operands, manner]
      cases found : ofShared? line with
      | some invocation => exact (asData_of_ofShared? found).symm
      | none =>
          cases line.operands with
          | nil => rfl
          | cons name rest =>
              simp only
              split
              · exact (asData_getD_ofShared? _).symm
              · exact ofTask_asData ⟨_, _, line.has .asData, _⟩ name rest

end Arguments

/-- Transcripts that differ in what was written to the streams, none of which failed in writing. -/
structure SameBut (text data : Transcript) : Prop where
  verdict : text.verdict = data.verdict
  disk : text.disk = data.disk
  unmarked : ∀ fault, text.verdict ≠ .crashed (.markup fault)

/-- Reports that can all be written change neither the verdict nor the disk. -/
theorem sameBut_conclude {text data : Transcript} (same : SameBut text data)
    {shown told : List (Except Console.MarkupFault String)} (written : Written shown)
    (unmarked : Written told) : SameBut (conclude text shown) (conclude data told) := by
  obtain ⟨more, added⟩ := conclude_of_written text written
  obtain ⟨most, joined⟩ := conclude_of_written data unmarked
  rw [added, joined]
  exact ⟨same.verdict, same.disk, same.unmarked⟩

namespace World

variable (world : World) {manner : Manner} {document : Path} {plan : Plan}

theorem sameBut_reply {verdict : Verdict} (unmarked : ∀ fault, verdict ≠ .crashed (.markup fault))
    {shown told : List (Except Console.MarkupFault String)} (written : Written shown)
    (printed : Written told) : SameBut (world.reply verdict shown) (world.reply verdict told) :=
  sameBut_conclude ⟨rfl, rfl, unmarked⟩ written printed

/-- A document without a plan is treated alike. -/
theorem sameBut_withPlan_of_error {error : PlanError} {other : Manner}
    (planned : Plan.ofFile world.disk world.home document = .error error)
    (act act' : Plan → Transcript) :
    SameBut (world.withPlan manner document act) (world.withPlan other document act') := by
  cases reported : error.isReported with
  | true =>
      rw [world.withPlan_of_error planned reported, world.withPlan_of_error planned reported]
      exact world.sameBut_reply (by simp) (written_error _ _ _) (written_error _ _ _)
  | false =>
      rw [withPlan, withPlan, planned]
      cases error with
      | badPath path => exact world.sameBut_reply (by simp) (by simp [Written]) (by simp [Written])
      | invalid problems =>
          exact world.sameBut_reply (by simp) (by simp [Written]) (by simp [Written])
      | _ => cases reported

theorem sameBut_check (planned : Plan.ofFile world.disk world.home document = .ok plan)
    (other : Manner) : SameBut (world.check manner document) (world.check other document) := by
  rw [check, check, world.withPlan_of_ok planned, world.withPlan_of_ok planned]
  simp only
  split
  · exact world.sameBut_reply (by simp) (written_error _ _ _) (written_error _ _ _)
  · have counted (reporter : Reporter) (message : String) (members : List (String × Json)) :=
      written_counts reporter message members fun phase => (plan.steps.get phase).length
    exact world.sameBut_reply (by simp) (counted _ _ _) (counted _ _ _)

/-- Behind the writing of a plan the last report is the one of its path. -/
theorem showPlan_of_written {path : Path} {disk : Disk}
    (planned : Plan.ofFile world.disk world.home document = .ok plan)
    (written : world.disk.write world.home path.text
      (Text.encodeUtf8 (plan.dataText (some 2) ++ "\n").toList) = .ok disk) :
    world.showPlan manner document (some path) =
      { world with disk }.reply .done
        [.ok ((world.reporter manner).printData plan.data),
          .ok ((world.reporter manner).printRaw plan.outline),
          (world.reporter manner).print (Console.writtenMessage path.text) none] := by
  rw [showPlan, world.withPlan_of_ok planned]
  simp only [written]
  rfl

/-- The path of a plan that was written cannot be shown. -/
inductive Unshown : Task → Prop
  | path {document path : Path} {plan : Plan} {disk : Disk}
    (planned : Plan.ofFile world.disk world.home document = .ok plan)
    (written : world.disk.write world.home path.text
      (Text.encodeUtf8 (plan.dataText (some 2) ++ "\n").toList) = .ok disk)
    {fault : Console.MarkupFault}
    (marked : Console.StyledText.ofMarkup (Console.writtenMessage path.text).toList =
      .error fault) :
    Unshown (.show document (some path))

theorem sameBut_showPlan (planned : Plan.ofFile world.disk world.home document = .ok plan)
    (output : Option Path) (other : Manner) (shown : ¬world.Unshown (.show document output)) :
    SameBut (world.showPlan manner document output) (world.showPlan other document output) := by
  cases output with
  | none =>
      rw [showPlan, showPlan, world.withPlan_of_ok planned, world.withPlan_of_ok planned]
      exact world.sameBut_reply (by simp) (by simp [Written]) (by simp [Written])
  | some path =>
      cases written : world.disk.write world.home path.text
        (Text.encodeUtf8 (plan.dataText (some 2) ++ "\n").toList) with
      | error error =>
        rw [showPlan, showPlan, world.withPlan_of_ok planned, world.withPlan_of_ok planned]
        simp only [written]
        exact world.sameBut_reply (by simp) (by simp [Written]) (by simp [Written])
      | ok disk =>
        have message : ∃ text, Console.StyledText.ofMarkup
            (Console.writtenMessage path.text).toList = .ok text := by
          cases read : Console.StyledText.ofMarkup (Console.writtenMessage path.text).toList with
          | ok text => exact ⟨text, rfl⟩
          | error fault => exact absurd (.path planned written read) shown
        have reported (reporter : Reporter) : Written [.ok (reporter.printData plan.data),
            .ok (reporter.printRaw plan.outline),
            reporter.print (Console.writtenMessage path.text) none] := by
          simpa [Written] using reporter.exists_print_of_shown message
        rw [world.showPlan_of_written planned written, world.showPlan_of_written planned written]
        exact sameBut_reply _ (by simp) (reported _) (reported _)

/-- Such a path has an opening bracket. As text it stops the program behind the writing, and as
plain data it does not. -/
theorem performTask_of_unshown {task : Task} (unshown : world.Unshown task)
    (text : manner.asData = false) :
    let shown := world.performTask manner task
    let told := world.performTask { manner with asData := true } task
    (∃ document path, task = .show document (some path) ∧ '[' ∈ path.text.toList) ∧
      (∃ fault, shown.verdict = .crashed (.markup fault)) ∧ told.verdict = .done ∧
      shown.disk = told.disk := by
  intro shown told
  cases unshown with
  | @path document path plan disk planned written fault marked =>
      have bracket : '[' ∈ path.text.toList := by
        refine Decidable.byContradiction fun unmarked => ?_
        obtain ⟨text, shown⟩ := Console.StyledText.exists_ofMarkup_written unmarked
        cases marked.symm.trans shown
      have failed : (world.reporter manner).print (Console.writtenMessage path.text) none =
          .error fault := by
        rw [Reporter.print, marked]
        simp [reporter, text, Except.bind]
      have first : shown = { world with disk }.reply .done
          [.ok ((world.reporter manner).printData plan.data),
            .ok ((world.reporter manner).printRaw plan.outline), .error fault] := by
        rw [← failed]
        exact world.showPlan_of_written planned written
      have silent (message : String) :
          (world.reporter { manner with asData := true }).print message none = .ok "" :=
        print_of_data _ rfl message none
      have second : told = { world with disk }.reply .done
          [.ok ((world.reporter { manner with asData := true }).printData plan.data),
            .ok ((world.reporter { manner with asData := true }).printRaw plan.outline),
            .ok ""] := by
        rw [← silent (Console.writtenMessage path.text)]
        exact world.showPlan_of_written planned written
      have left : shown.disk = disk := by
        rw [first]
        exact disk_conclude ..
      have behind : told.disk = disk := by
        rw [second]
        exact disk_conclude ..
      exact ⟨⟨document, path, rfl, bracket⟩, ⟨fault, congrArg Transcript.verdict first⟩,
        congrArg Transcript.verdict second, left.trans behind.symm⟩

section Runs

variable {settings : Settings} (text : manner.asData = false)
  (alike : ∀ step ∈ plan.allSteps, Runner.Alike (world.runner settings)
    (world.runner { settings with outputToStderr := true }) step.shell)
include text alike

/-- As text and as plain data a run of a plan is the same, as long as it matters to no command where
its output goes. -/
theorem session_alike :
    let other := { manner with asData := true }
    world.ending manner plan settings = world.ending other plan settings ∧
      (world.session manner plan settings).runnerState =
        (world.session other plan settings).runnerState ∧
      (world.session manner plan settings).endings =
        (world.session other plan settings).endings := by
  have own : world.runnerFor manner settings = world.runner settings := by
    simp [runnerFor, text]
  simp only [ending, session, own]
  exact Session.runPlan_alike alike settings.showCommands world.environment world.disk world.clock

theorem sameBut_runPlan :
    SameBut (world.runPlan manner plan settings)
      (world.runPlan { manner with asData := true } plan settings) := by
  obtain ⟨ends, leaves, -⟩ := world.session_alike text alike
  rw [runPlan_eq_conclude, runPlan_eq_conclude]
  refine sameBut_conclude ⟨congrArg RunEnding.verdict ends, leaves, ?_⟩
    (written_runReports _ _) (written_runReports _ _)
  exact RunEnding.verdict_ne_markup _

end Runs

section Alike

/-- The commands that are run for a task, each with how it ended. -/
def commands (manner : Manner) : Task → List (String × Ending)
  | .run document config false =>
    match Plan.ofFile world.disk world.home document,
      Settings.load world.disk world.home config with
    | .ok plan, .ok settings => (world.session manner plan settings).endings
    | _, _ => []
  | _ => []

variable {task : Task} (text : manner.asData = false)
  (alike : ∀ plan, Plan.ofFile world.disk world.home document = .ok plan → ∀ settings : Settings,
    ∀ step ∈ plan.allSteps, Runner.Alike (world.runner settings)
      (world.runner { settings with outputToStderr := true }) step.shell)
include text alike

theorem commands_alike (about : task.document? = some document) :
    world.commands manner task = world.commands { manner with asData := true } task := by
  cases task with
  | run other config dry =>
      cases about
      cases dry with
      | true => rfl
      | false =>
          simp only [commands]
          split
          · next plan settings planned loaded =>
            exact (world.session_alike text (alike plan planned settings)).2.2
          · rfl
  | _ => rfl

theorem sameBut_runDocument (planned : Plan.ofFile world.disk world.home document = .ok plan)
    (config : Path) (dry : Bool) :
    SameBut (world.runDocument manner document config dry)
      (world.runDocument { manner with asData := true } document config dry) := by
  rw [runDocument, runDocument, world.withPlan_of_ok planned, world.withPlan_of_ok planned]
  simp only
  split
  · exact world.sameBut_reply (by simp) (by simp [Written]) (by simp [Written])
  · next settings loaded =>
    cases dry with
    | true =>
        have rehearsed (reporter : Reporter) : Written
            [reporter.print "[cyan][DRY RUN][/cyan] Would run:" none,
              .ok (reporter.printRaw plan.outline)] := by
          simpa [Written] using
            reporter.exists_print_of_shown Console.StyledText.exists_ofMarkup_rehearsal
        exact world.sameBut_reply (by simp) (rehearsed _) (rehearsed _)
    | false => exact world.sameBut_runPlan text (alike plan planned settings)

/-- With a plan a task goes the same way, unless a path cannot be shown. -/
theorem sameBut_performTask (planned : Plan.ofFile world.disk world.home document = .ok plan)
    (about : task.document? = some document) (shown : ¬world.Unshown task) :
    SameBut (world.performTask manner task)
      (world.performTask { manner with asData := true } task) := by
  cases task with
  | create => cases about
  | «show» other output =>
      cases about
      exact world.sameBut_showPlan planned output _ shown
  | check other =>
      cases about
      exact world.sameBut_check planned _
  | run other config dry =>
      cases about
      exact world.sameBut_runDocument text alike planned config dry

/-- Whether a task about a document reports as text or as plain data, it runs the same commands and
leaves the same disk. It comes to the same verdict, unless a path that cannot be shown stops it
behind the writing; and such a path has an opening bracket. -/
theorem perform_asData {arguments : List String}
    (asked : Invocation.ofArguments arguments = .perform manner task)
    (about : task.document? = some document) :
    let other := { manner with asData := true }
    Invocation.ofArguments ("--json" :: arguments) = .perform other task ∧
      ∀ others, Invocation.ofArguments others = .perform other task →
        let shown := world.perform arguments
        let told := world.perform others
        world.commands manner task = world.commands other task ∧ shown.disk = told.disk ∧
          (¬world.Unshown task → shown.verdict = told.verdict ∧
            ∀ fault, shown.verdict ≠ .crashed (.markup fault)) ∧
          (world.Unshown task →
            (∃ document path, task = .show document (some path) ∧ '[' ∈ path.text.toList) ∧
              (∃ fault, shown.verdict = .crashed (.markup fault)) ∧
              shown.verdict.exitCode = 1 ∧ told.verdict.exitCode = 0) := by
  intro other
  constructor
  · rw [Invocation.ofArguments_json, asked]
    rfl
  intro others askedData shown told
  have first : shown = world.performTask manner task := by
    simp only [shown, perform, asked]
  have second : told = world.performTask other task := by
    simp only [told, perform, askedData]
  have visible : ¬world.Unshown task → SameBut shown told := by
    intro visible
    cases planned : Plan.ofFile world.disk world.home document with
    | error error =>
        obtain ⟨act, same⟩ := world.exists_perform_eq_withPlan asked about
        obtain ⟨act', same'⟩ := world.exists_perform_eq_withPlan askedData about
        simp only [shown, told, same, same']
        exact world.sameBut_withPlan_of_error planned act act'
    | ok plan =>
        rw [first, second]
        exact world.sameBut_performTask text alike planned about visible
  have unshown (unshown : world.Unshown task) := world.performTask_of_unshown unshown text
  rw [← first, ← second] at unshown
  refine ⟨world.commands_alike text alike about, ?_, fun seen => ?_, fun unseen => ?_⟩
  · by_cases unseen : world.Unshown task
    · exact (unshown unseen).2.2.2
    · exact (visible unseen).disk
  · exact ⟨(visible seen).verdict, (visible seen).unmarked⟩
  · obtain ⟨bracket, ⟨fault, crashed⟩, done, -⟩ := unshown unseen
    exact ⟨bracket, ⟨fault, crashed⟩, by rw [crashed]; rfl, by rw [done]; rfl⟩

end Alike

end World

/-- As text and as plain data the trial runs the test that fails, and tells it by its exit code. -/
theorem perform_asData_trial :
    trial.commands ⟨0, false, false, false⟩
        (.run (.ofText "d.md") (.ofText Settings.fileName) false) = [("exit 3\n", .exited 3)] ∧
      (trial.perform ["run", "d.md"]).verdict.exitCode = 1 ∧
      (trial.perform ["--json", "run", "d.md"]).verdict.exitCode = 1 := by
  obtain ⟨metadata, planned⟩ := exists_plan_trial
  have asked : Invocation.ofArguments ["run", "d.md"] =
      .perform ⟨0, false, false, false⟩
        (.run (.ofText "d.md") (.ofText Settings.fileName) false) := by decide
  have askedData := Invocation.ofArguments_json_run (show givesOptions "d.md" = false by decide)
  have loaded : Settings.load trial.disk trial.home (.ofText Settings.fileName) =
      .ok .default := rfl
  have failed : (trial.perform ["--json", "run", "d.md"]).verdict = .failed := by
    rw [trial.perform_run_of_ok askedData planned loaded, World.verdict_runPlan]
    rfl
  obtain ⟨-, alike⟩ := trial.perform_asData rfl (fun _ _ _ _ _ _ => ⟨rfl, rfl⟩) asked rfl
  obtain ⟨-, -, visible, -⟩ := alike _ askedData
  have same := (visible nofun).1
  refine ⟨?_, by rw [same, failed]; rfl, by rw [failed]; rfl⟩
  rw [World.commands, planned, loaded]
  rfl

/-- A world with a directory whose name ends in an opening bracket. -/
def bracketed : World :=
  { World.holding "d.md" "" with
    disk := ⟨[(["d.md"], .file (Text.encodeUtf8 "---\ndeployDoc: true\n---\n".toList) false),
      (["a["], .directory)]⟩ }

/-- The path of the plan reads as the end of a tag that was never opened. -/
theorem unshown_bracketed :
    bracketed.Unshown (.show (.ofText "d.md") (some (.ofText "a[/x]"))) := by
  have parts : (Plan.ofFile bracketed.disk bracketed.home (.ofText "d.md")).toOption.map
      (fun plan => (plan.requiredVars, plan.steps)) = some ([], ⟨[], [], [], []⟩) := by
    decide +kernel
  obtain ⟨metadata, planned⟩ := exists_metadata_of_parts parts
  have found : bracketed.disk.find bracketed.home (Path.ofText "a[/x]").text =
      .ok ["a[", "x]"] := rfl
  have written (bytes : List UInt8) : bracketed.disk.write bracketed.home
      (Path.ofText "a[/x]").text bytes =
        .ok (bracketed.disk.insert ["a[", "x]"] (.file bytes false)) := by
    rw [Disk.write, found]
    rfl
  cases read : Console.StyledText.ofMarkup
      (Console.writtenMessage (Path.ofText "a[/x]").text).toList with
  | error fault => exact .path planned (written _) read
  | ok text =>
      have refused : (Console.StyledText.ofMarkup
          (Console.writtenMessage (Path.ofText "a[/x]").text).toList).toOption.isNone = true := by
        decide +kernel
      rw [read] at refused
      cases refused

/-- As text the same plan is written and then not reported. -/
theorem exitCode_show_bracketed :
    (bracketed.perform ["plan", "d.md", "-o", "a[/x]"]).verdict.exitCode = 1 ∧
      (bracketed.perform ["--json", "plan", "d.md", "-o", "a[/x]"]).verdict.exitCode = 0 := by
  have asked : Invocation.ofArguments ["plan", "d.md", "-o", "a[/x]"] =
      .perform ⟨0, false, false, false⟩
        (.show (.ofText "d.md") (some (.ofText "a[/x]"))) := by decide
  have askedData := Invocation.ofArguments_json ["plan", "d.md", "-o", "a[/x]"]
  rw [asked] at askedData
  have text : (⟨0, false, false, false⟩ : Manner).asData = false := rfl
  obtain ⟨-, ⟨fault, crashed⟩, done, -⟩ := bracketed.performTask_of_unshown unshown_bracketed text
  constructor
  · rw [World.perform, asked]
    exact congrArg Verdict.exitCode crashed
  · rw [World.perform, askedData]
    exact congrArg Verdict.exitCode done

end Command

end Runbook
