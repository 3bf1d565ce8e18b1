import Runbook.Shell.Act

/-!
# Jobs

A shell keeps a table of its jobs in the background. It sees that a job is over only when it waits
for a child. In the common language the job stays in the table until its place is taken by another
child; in the extended one it is no longer listed, but can still be waited for.
-/

namespace Runbook.Shell

/-- The status that stands for how a process ended. -/
def endStatus : Host.ProcessEnd → Nat
  | .exited status => status
  | .killed signal => 128 + signal

/-- The jobs that are listed and named. -/
def Machine.listedJobs (machine : Machine) : List Job :=
  if machine.isExtended then machine.jobs.filter (!·.ended) else machine.jobs

/-- Takes the first free place in the table of jobs; gives its number. -/
def takeJobNumber : Act Nat := modifyGet fun machine =>
  let holdsPlace (job : Job) : Bool := !job.ended || (!machine.isExtended && !job.waited)
  let used := (machine.jobs.filter holdsPlace).map (·.number)
  let numbers := (List.range (used.length + 1)).map (· + 1)
  let number := (numbers.find? fun n => !used.contains n).getD 1
  let jobs := if machine.isExtended then machine.jobs else machine.jobs.filter (·.number != number)
  (number, { machine with jobs })

/-- Sees which jobs are over. -/
def noteEnds : Act Unit := do
  let jobs := (← get).jobs
  if !jobs.isEmpty then
    let seen ← Act.look fun state => jobs.map fun job =>
      { job with ended := job.ended || job.processes.all state.isOver }
    modify fun machine => { machine with jobs := seen }

/-- Tells how a child ended that the shell has waited for, if a signal ended it. -/
def tellEnd (ending : Host.ProcessEnd) (number : Nat) : Act Unit := do
  match ending with
  | .exited _ => return ()
  | .killed signal =>
    let machine ← get
    if signal = Host.interruptSignal || signal = Host.pipeSignal then return ()
    else
      let isPlain := machine.dialect = .common || signal = Host.endSignal
      say 2 ((if isPlain then "" else machine.messageFront ++ toString number ++ " ") ++
        Host.signalText signal ++ "\n")

/-- The job that a text names, or why there is none. -/
def Machine.jobNamed (machine : Machine) (text : String) : Except String Job :=
  let absent := "No such job: " ++ text
  let jobs := machine.listedJobs
  let inPlace (job : Option Job) (reason : String) : Except String Job :=
    match job with
    | some job => .ok job
    | none => .error reason
  match text.toList with
  | '%' :: rest =>
    match rest with
    | [] | ['%'] | ['+'] => inPlace jobs.getLast? "No current job"
    | ['-'] => inPlace jobs.dropLast.getLast? "No previous job"
    | digits =>
      inPlace ((readNat? 10 digits).bind fun n => jobs.find? fun job => job.number = n) absent
  | _ => .error absent

end Runbook.Shell
