import Runbook.Shell.Job
import Runbook.Shell.Builtin.Basic

/-!
# Commands for jobs
-/

namespace Runbook.Shell

/-- Waits until some processes are over or a signal is caught; gives the signal in that case. -/
def awaitAll (numbers : List Nat) : Act (Option Nat) := do
  let me ← myself
  Act.await fun state => numbers.all state.isOver || state.isCalled me
  Act.look fun state =>
    if numbers.all state.isOver then none
    else (state.process? me).bind (·.pending.head?)

/-- Changes the job with a number. -/
def updateJob (number : Nat) (update : Job → Job) : Act Unit := modify fun machine =>
  { machine with
    jobs := machine.jobs.map fun job => if job.number = number then update job else job }

/-- Waits for a job; gives its status, or that of the signal that came first. -/
def awaitJob (job : Job) : Act Nat := do
  match ← awaitAll job.processes with
  | some signal => return 128 + signal
  | none =>
    let ending := (← Act.look fun state => state.ending? job.last).getD (.exited 0)
    if !job.ended && !(← get).isExtended then tellEnd ending job.last
    updateJob job.number fun job => { job with ended := true, waited := true }
    return endStatus ending

/-- Waits for all jobs. -/
def awaitJobs : Act Nat := do
  let machine ← get
  let all := machine.jobs.flatMap (·.processes)
  let own ← Act.look fun state => all.filter fun number =>
    (state.process? number).any fun process => process.parent = machine.process
  match ← awaitAll own with
  | some signal => return 128 + signal
  | none =>
    let jobs : List Job := machine.jobs.map fun job => { job with ended := true, waited := true }
    set { machine with jobs := if machine.isExtended then [] else jobs }
    return 0

/-- Waits for the next job that is over; gives its status. -/
def awaitNext : Act Nat := do
  let machine ← get
  let me := machine.process
  let lasts := machine.jobs.map (·.last)
  if lasts.isEmpty then return 127
  else
    Act.await fun state => lasts.any state.isOver || state.isCalled me
    let job? ← Act.look fun state => machine.jobs.find? fun job => state.isOver job.last
    match job? with
    | none => return 128
    | some job =>
      modify fun machine => { machine with jobs := machine.jobs.filter (·.number != job.number) }
      awaitJob job

/-- The job of the process that a text names, if it is a child of this shell. -/
def jobOfProcess (text : String) (number : Nat) : Act (Option Job) := do
  let machine ← get
  let job? := machine.jobs.reverse.find? fun job => job.last = number
  if job?.isNone && machine.isExtended then
    complainIn ("pid " ++ text ++ " is not a child of this shell")
  return job?

/-- The job that an operand names; a wrong operand is told or a fault. -/
def operandJob (text : String) : Act (Option Job) := do
  let machine ← get
  if text.front == '%' then
    match machine.jobNamed text, machine.dialect with
    | .ok job, _ => return some job
    | .error reason, .common => abandon 2 reason
    | .error _, .extended =>
      complainIn (text ++ ": no such job")
      return none
  else
    match readNat? 10 text.toList, machine.dialect with
    | some number, _ => jobOfProcess text number
    | none, .common => abandon 2 ("Illegal number: " ++ text)
    | none, .extended =>
      complainIn ("\x60" ++ text ++ "': not a pid or valid job spec")
      setStatus 1
      throw .fault

/-- Waits for jobs. -/
def waitCommand : Utility := fun arguments => do
  let (options, operands) ← optionsOf (if (← get).isExtended then "fnp:" else "") arguments
  if options.any (·.1 == 'n') then awaitNext
  else if operands.isEmpty then awaitJobs
  else
    operands.foldlM (fun _ text => do
      match ← operandJob text with
      | some job => awaitJob job
      | none => return 127) 0

/-- The state of a job in a word. -/
def jobWord : Option Host.ProcessEnd → String
  | none => "Running"
  | some (.exited 0) => "Done"
  | some (.exited n) => "Done(" ++ toString n ++ ")"
  | some (.killed signal) => Host.signalText signal

/-- The line for a job: the last one is marked, and so is the one before. The extended language
tells its text, the common one only how many processes it has. -/
def jobLine (dialect : Dialect) (mark : Char) (job : Job) (ending : Option Host.ProcessEnd) :
    String :=
  let filled (width : Nat) (text : String) : String :=
    text ++ String.ofList (List.replicate (max 1 (width - text.length)) ' ')
  let front := "[" ++ toString job.number ++ "]"
  match dialect with
  | .common =>
    filled 33 (front ++ " " ++ mark.toString ++ " " ++ jobWord ending) ++
      String.join (List.replicate (job.processes.length - 1) " | ") ++ "\n"
  | .extended =>
    front ++ mark.toString ++ "  " ++ filled 24 (jobWord ending) ++ job.text ++
      (if ending.isNone then " &" else "") ++ "\n"

/-- Lists jobs; those that are over are not listed again. The common language lists the last one
first; a job that is over leaves its mark to the next one. -/
def jobsCommand : Utility := fun arguments => do
  let (options, _) ← optionsOf (if (← get).isExtended then "lnprs" else "lp") arguments
  noteEnds
  let machine ← get
  let listed := machine.listedJobs
  let marked (n : Nat) : Char := if n = 0 then '+' else if n = 1 then '-' else ' '
  let ordered :=
    if machine.isExtended then
      listed.zipIdx.map fun (job, n) => (marked (listed.length - 1 - n), job)
    else withMarks marked 0 listed.reverse
  if options.any (·.1 == 'p') then
    say 1 (String.join (ordered.map fun (_, job) => toString (job.processes.headD 0) ++ "\n"))
  else if !(options.any (·.1 == 's')) then
    let endings ← Act.look fun state => ordered.map fun (_, job) =>
      if job.ended then state.ending? job.last else none
    say 1 (String.join ((ordered.zip endings).map fun ((mark, job), ending) =>
      jobLine machine.dialect mark job ending))
  if !machine.isExtended then set { machine with jobs := machine.jobs.filter (!·.ended) }
  return 0
where
  withMarks (marked : Nat → Char) (n : Nat) : List Job → List (Char × Job)
    | [] => []
    | job :: jobs => (marked n, job) :: withMarks marked (if job.ended then n else n + 1) jobs

/-- Forgets jobs, without ending them. -/
def disownCommand : Utility := fun arguments => do
  let (options, operands) ← optionsOf "ahr" arguments
  let has (letter : Char) : Bool := options.any (·.1 == letter)
  let forget (job : Job) : Act Unit := do
    if !has 'h' then
      modify fun machine =>
        { machine with jobs := machine.jobs.filter (·.number != job.number) }
  if operands.isEmpty && (has 'a' || has 'r') then
    for job in (← get).jobs do forget job
    return 0
  else
    let names :=
      if operands.isEmpty then [("current", "%")] else operands.map fun text => (text, text)
    names.foldlM (fun status (shown, text) => do
      let machine ← get
      let job? :=
        match (machine.jobNamed text).toOption, readNat? 10 text.toList with
        | some job, _ => some job
        | none, some number => machine.jobs.find? fun job => job.processes.contains number
        | none, none => none
      match job? with
      | some job =>
        forget job
        return status
      | none =>
        complainIn (shown ++ ": no such job")
        return 1) 0

/-- Refuses to bring a job to the front or to let it go on in the background. -/
def refuseJob : Utility := fun _ => do
  match (← get).dialect with
  | .common => abandon 2 "No current job"
  | .extended =>
    complainIn "no job control"
    return 1

end Runbook.Shell
