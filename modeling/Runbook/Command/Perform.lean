import Runbook.Command.Invocation
import Runbook.Console.LogLine
import Runbook.Console.Report
import Runbook.Plan.File
import Runbook.Plan.Outline
import Runbook.Run.Plan

/-!
# Performing a task

A task reads its document from a disk, reports, and ends with a verdict. How the commands of a run
are run is a parameter: a runner for every choice of settings. What the commands write comes before
the report of the run; what they write as errors stands among the lines of the log.
-/

namespace Runbook.Command

/-- What stops a task that is not prepared for it. -/
inductive Crash where
  | document (path : String)
  | metadata (problems : List Problem)
  | settings (error : SettingsError)
  | output (error : DiskError)
  | fault (fault : Fault)
  | markup (fault : Console.MarkupFault)
  deriving DecidableEq, Repr

/-- How an invocation ends. -/
inductive Verdict where
  | done
  | failed
  | cleanupFailed
  | missingVariables
  | invalidDocument
  | preparationFailed
  | misused
  | crashed (crash : Crash)
  deriving DecidableEq, Repr

/-- The exit code of a verdict. -/
def Verdict.exitCode : Verdict → Nat
  | done => 0
  | failed => 1
  | cleanupFailed => 2
  | missingVariables => 3
  | invalidDocument => 4
  | preparationFailed => 5
  | misused => 2
  | crashed _ => 1

/-- What an invocation leaves behind. -/
structure Transcript where
  verdict : Verdict
  out : String
  err : String
  disk : Disk
  deriving Repr

/-- Where a task is performed: the disk, the present directory, the variables, the readings of the
clock to come, and how commands are run. -/
structure World where
  disk : Disk
  home : Location
  environment : List (String × String)
  clock : List Binary64
  runner : Settings → Runner Disk

/-- The width of a console where none is set. -/
def defaultCells : Nat := 80

/-- The width of the console. -/
def World.cells (world : World) : Nat :=
  ((world.environment.lookup "COLUMNS").bind fun text => readNat? 10 text.toList).getD defaultCells

/-- The reporter of a task. -/
def World.reporter (world : World) (manner : Manner) : Reporter := ⟨world.cells, manner.asData⟩

/-- Adds reports up to the first one that cannot be written. -/
def conclude (transcript : Transcript) : List (Except Console.MarkupFault String) → Transcript
  | [] => transcript
  | .ok text :: reports => conclude { transcript with out := transcript.out ++ text } reports
  | .error fault :: _ => { transcript with verdict := .crashed (.markup fault) }

/-- The transcript of a task that only reports. -/
def World.reply (world : World) (verdict : Verdict)
    (reports : List (Except Console.MarkupFault String)) : Transcript :=
  conclude ⟨verdict, "", "", world.disk⟩ reports

/-- Goes on with the plan of a document, if it has one. -/
def World.withPlan (world : World) (manner : Manner) (document : Path)
    (act : Plan → Transcript) : Transcript :=
  match Plan.ofFile world.disk world.home document with
  | .ok plan => act plan
  | .error error =>
    match error with
    | .badPath path => world.reply (.crashed (.document path)) []
    | .invalid problems => world.reply (.crashed (.metadata problems)) []
    | .notFound _ | .unreadable _ _ | .badMetadata _ | .inactive _ =>
      world.reply .invalidDocument
        [(world.reporter manner).error error.message [("file", .str document.text)]]

/-- The data of missing variables. -/
def missingData (names : List String) : List (String × Json) := [("missing", .strings names)]

/-- Writes the settings file that a project starts with, unless it is there. -/
def World.create (world : World) (manner : Manner) : Transcript :=
  let place := world.home ++ [Settings.fileName]
  let path := (Path.ofLocation place).text
  let reporter := world.reporter manner
  match world.disk.lookup place with
  | some _ =>
    world.reply .done [reporter.print ("[yellow]Config already exists:[/yellow] " ++ path) none]
  | none =>
    let entry := .file (Text.encodeUtf8 Settings.template.toList) false
    { world with disk := world.disk.insert place entry }.reply .done
      [reporter.print ("[green]Created config template:[/green] " ++ path) none]

/-- Shows the plan of a document, and writes it to a file if asked for. -/
def World.showPlan (world : World) (manner : Manner) (document : Path) (output : Option Path) :
    Transcript :=
  world.withPlan manner document fun plan =>
    let reporter := world.reporter manner
    let shown : List (Except Console.MarkupFault String) :=
      [.ok (reporter.printData plan.data), .ok (reporter.printRaw plan.outline)]
    match output with
    | none => world.reply .done shown
    | some path =>
      let text := plan.dataText (some 2) ++ "\n"
      match world.disk.write world.home path.text (Text.encodeUtf8 text.toList) with
      | .error error => world.reply (.crashed (.output error)) []
      | .ok disk =>
        { world with disk }.reply .done
          (shown ++ [reporter.print ("\n[bold]JSON plan written to:[/bold] " ++ path.text) none])

/-- Checks a document and the variables that it requires. -/
def World.check (world : World) (manner : Manner) (document : Path) : Transcript :=
  world.withPlan manner document fun plan =>
    let reporter := world.reporter manner
    match plan.missingVars world.environment with
    | name :: names =>
      let missing := name :: names
      world.reply .missingVariables [reporter.error (missingMessage missing) (missingData missing)]
    | [] =>
      let counts := Phase.all.map fun phase => (phase.name, (plan.steps.get phase).length)
      let message :=
        document.text ++ " is ready to run (" ++ toString plan.stepCount ++ " steps)"
      let data : List (String × Json) :=
        [("file", .str document.text),
          ("steps", .obj (counts.map fun (name, count) => (name, .int count)))]
      world.reply .done (reporter.success message data ::
        counts.map fun (name, count) =>
          reporter.print ("  " ++ name ++ ": " ++ toString count) none)

/-- What an event leaves on the two streams. -/
def eventText (cells : Nat) (verbosity : Verbosity) : Event → String × String
  | .called _ reply => (reply.out, reply.err)
  | .logged level message => ("", Console.recordText cells verbosity level message)

/-- The data of a failed step. -/
def stepErrorData (error : StepError) : List (String × Json) :=
  [("phase", .str error.phase.name), ("step", .str error.step.identity)]

/-- The verdict on a run and its reports. -/
def runReports (reporter : Reporter) :
    RunEnding → Verdict × List (Except Console.MarkupFault String)
  | .missing names =>
    (.missingVariables, [reporter.error (missingMessage names) (missingData names)])
  | .cleanupFailed error =>
    (.cleanupFailed, [reporter.error (cleanupMessage error) (stepErrorData error)])
  | .preparationFailed error =>
    (.preparationFailed, [reporter.error error.message (stepErrorData error)])
  | .faulted fault => (.crashed (.fault fault), [])
  | .completed result =>
    let summary := reporter.stepSummary result
    match result.failure with
    | some failure =>
      (.failed, [summary, reporter.error ("Deployment test failed: " ++ failure) result.members])
    | none => (.done, [summary, reporter.success "Deployment test succeeded" result.members])

/-- Runs the plan of a document with settings. -/
def World.runPlan (world : World) (manner : Manner) (plan : Plan) (settings : Settings) :
    Transcript :=
  let settings :=
    if manner.asData then { settings with outputToStderr := true } else settings
  let verbosity := Verbosity.ofFlags manner.verbose manner.quiet
  let (ending, session) :=
    (Session.start world.disk world.clock (some [])).runPlan (world.runner settings)
      settings.showCommands plan world.environment
  let texts := session.events.map (eventText world.cells verbosity)
  let (verdict, reports) := runReports (world.reporter manner) ending
  conclude
    ⟨verdict, String.join (texts.map (·.1)), String.join (texts.map (·.2)), session.runnerState⟩
    reports

/-- Runs a document, or only shows what would be run. -/
def World.runDocument (world : World) (manner : Manner) (document settings : Path) (dry : Bool) :
    Transcript :=
  world.withPlan manner document fun plan =>
    match Settings.load world.disk world.home settings with
    | .error error => world.reply (.crashed (.settings error)) []
    | .ok settings =>
      if dry then
        let reporter := world.reporter manner
        world.reply .done
          [reporter.print "[cyan][DRY RUN][/cyan] Would run:" none,
            .ok (reporter.printRaw plan.outline)]
      else world.runPlan manner plan settings

/-- Performs a task. -/
def World.performTask (world : World) (manner : Manner) : Task → Transcript
  | .create => world.create manner
  | .show document output => world.showPlan manner document output
  | .check document => world.check manner document
  | .run document settings dry => world.runDocument manner document settings dry

/-- The name of the program and its version. -/
def versionText : String := "deploydoc 0.1.0"

/-- How the program is used. -/
def usageText : String :=
  "Usage: deploydoc [--version] [--verbose] [--quiet] [--json] [--no-color] COMMAND\n\n" ++
    "  init\n  plan FILE [--output PATH]\n  check FILE\n  run FILE [--config PATH] [--dry-run]\n"

/-- Performs what a command line asks for. -/
def World.perform (world : World) (arguments : List String) : Transcript :=
  match Invocation.ofArguments arguments with
  | .misused => ⟨.misused, "", usageText, world.disk⟩
  | .version => ⟨.done, versionText ++ "\n", "", world.disk⟩
  | .help => ⟨.done, usageText, "", world.disk⟩
  | .perform manner task => world.performTask manner task

end Runbook.Command
