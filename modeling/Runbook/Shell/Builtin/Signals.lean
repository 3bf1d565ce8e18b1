import Runbook.Number.Power
import Runbook.Shell.Builtin.Variables
import Runbook.Shell.Job

/-!
# Commands for signals

Traps say what is done when a signal comes. Signals are sent to processes and to jobs.
-/

namespace Runbook.Shell

open Host (signalNumber? signalName? signalTable)

/-- The number under which the trap for the end of the shell is kept. -/
def exitTrap : Nat := 0

/-- The number under which the trap for failed commands is kept. -/
def errorTrap : Nat := 101

/-- The number under which the trap for all commands is kept. -/
def debugTrap : Nat := 102

/-- The number under which the trap for the end of functions is kept. -/
def returnTrap : Nat := 103

/-- The number of the signal that a text names. -/
def signalOf? (dialect : Dialect) (text : String) : Option Nat :=
  match readNat? 10 text.toList with
  | some n => if n ≤ Host.greatestSignal then some n else none
  | none =>
    let name := text.toUpper
    match dialect with
    | .common => if name = "EXIT" then some exitTrap else signalNumber? name
    | .extended =>
      let name := if name.startsWith "SIG" then String.ofList (name.toList.drop 3) else name
      match name with
      | "EXIT" => some exitTrap
      | "ERR" => some errorTrap
      | "DEBUG" => some debugTrap
      | "RETURN" => some returnTrap
      | _ => signalNumber? name

/-- The name of a signal as a trap is listed with. -/
def trapName (dialect : Dialect) (signal : Nat) : String :=
  if signal = exitTrap then "EXIT"
  else if signal = errorTrap then "ERR"
  else if signal = debugTrap then "DEBUG"
  else if signal = returnTrap then "RETURN"
  else
    let name := (signalName? signal).getD (toString signal)
    match dialect with
    | .common => name
    | .extended => "SIG" ++ name

/-- Tells the system how this process takes a signal. -/
def takeSignal (signal : Nat) (action : Option String) : Act Unit := do
  let me ← myself
  if 0 < signal && signal ≤ Host.greatestSignal then
    Act.change fun state => state.updateProcess me fun process =>
      let caught := process.caught.filter (· != signal)
      let ignored := process.ignored.filter (· != signal)
      match action with
      | none => { process with caught, ignored }
      | some "" => { process with caught, ignored := signal :: ignored }
      | some _ => { process with caught := signal :: caught, ignored }

/-- Sets or clears a trap. -/
def setTrap (signal : Nat) (action : Option String) : Act Unit := do
  modify fun machine =>
    let others := machine.traps.filter (·.1 != signal)
    { machine with
      outerTraps := []
      traps :=
        match action with
        | some action => (signal, action) :: others
        | none => others }
  takeSignal signal action

/-- Clears the traps that a new shell does not take over. The extended language still lists them as
long as none is set. -/
def clearTraps : Act Unit := do
  let machine ← get
  let (kept, gone) := machine.traps.partition fun entry => entry.2 = ""
  set { machine with traps := kept, outerTraps := if machine.isExtended then gone else [] }
  for entry in gone do takeSignal entry.1 none

/-- Lists traps. -/
def listTraps (signals : List Nat) : Act Unit := do
  let machine ← get
  let known := machine.traps ++ machine.outerTraps
  let traps := (known.filter fun entry => signals.isEmpty || signals.contains entry.1).mergeSort
    fun a b => a.1 ≤ b.1
  say 1 (String.join (traps.map fun (signal, action) =>
    "trap -- " ++ (if machine.isExtended then reusable action else singleQuoted action) ++ " " ++
      trapName machine.dialect signal ++ "\n"))

/-- Sets, clears or lists traps. -/
def trapCommand : Utility := fun arguments => do
  let machine ← get
  let (options, operands) ← optionsOf (if machine.isExtended then "lp" else "") arguments
  let named := operands.filterMap (signalOf? machine.dialect)
  if operands.isEmpty || options.any (·.1 == 'p') then
    listTraps named
    return 0
  else
    let isReset := operands.length = 1 || (readNat? 10 (operands.headD "").toList).isSome
    let (action, names) : Option String × List String :=
      match operands with
      | first :: rest => if isReset then (none, operands) else (some first, rest)
      | [] => (none, [])
    let action := if action = some "-" then none else action
    setAll machine.dialect action names
where
  setAll (dialect : Dialect) (action : Option String) : List String → Act Nat
    | [] => return 0
    | name :: names => do
      match signalOf? dialect name with
      | some signal =>
        setTrap signal action
        setAll dialect action names
      | none =>
        match dialect with
        | .common =>
          say 2 ("trap: " ++ name ++ ": bad trap\n")
          return 1
        | .extended =>
          complainIn (name ++ ": invalid signal specification")
          let _ ← setAll dialect action names
          return 1

/-- Sends a signal to a process; says whether there is one. -/
def sendSignal (signal number : Nat) : Act Bool :=
  Act.ask fun state =>
    let isThere := !state.isOver number || (state.ending? number).isSome
    (isThere, state.send number signal)

/-- The signal that the options of the command name, and its operands. -/
def killOptions (machine : Machine) (arguments : List String) :
    Act (Option Nat × Bool × List String) := do
  match arguments with
  | [] => return (some Host.endSignal, false, [])
  | first :: rest =>
    match first.toList with
    | '-' :: letters =>
      match signalOf? machine.dialect (String.ofList letters) with
      | some signal => return (some signal, false, rest)
      | none =>
        if first = "--" then return (some Host.endSignal, false, rest)
        else if machine.isExtended && letters.head?.any fun c => !"lLsn".toList.contains c then
          complainIn (String.ofList letters ++ ": invalid signal specification")
          return (none, false, [])
        else
          let (options, operands) ←
            optionsOf (if machine.isExtended then "lLs:n:" else "ls:") arguments
          let lists := options.any fun option => option.1 == 'l' || option.1 == 'L'
          match options.find? fun option => option.1 == 's' || option.1 == 'n' with
          | some (_, name) =>
            match signalOf? machine.dialect name with
            | some signal => return (some signal, lists, operands)
            | none =>
              match machine.dialect with
              | .common => abandon 2 ("invalid signal number or name: " ++ name)
              | .extended =>
                complainIn (name ++ ": invalid signal specification")
                return (none, false, [])
          | none => return (some Host.endSignal, lists, operands)
    | _ => return (some Host.endSignal, false, arguments)

/-- The names of all signals, as the extended language lists them. -/
def signalColumns : String :=
  let entry (n : Nat) : Option String := (signalName? n).map fun name =>
    String.ofList (padLeft 2 ' ' (decimalDigits n)) ++ ") SIG" ++ name
  let entries := (List.range 32).filterMap entry
  rows 7 entries
where
  rows (fuel : Nat) (entries : List String) : String :=
    match fuel with
    | 0 => ""
    | fuel + 1 =>
      if entries.isEmpty then ""
      else "\t".intercalate (entries.take 5) ++ "\n" ++ rows fuel (entries.drop 5)

/-- The number of a group of processes that is not there: jobs of the common language are not in
groups of their own. -/
def absentProcess : Nat := twoTo 31 - 1

/-- Sends signals to processes and jobs, or lists the names of signals. -/
def killCommand : Utility := fun arguments => do
  let machine ← get
  let (signal?, lists, operands) ← killOptions machine arguments
  match signal? with
  | none => return 1
  | some signal =>
    if lists then
      match machine.dialect, operands with
      | .common, [] =>
        say 1 ("0\n" ++ String.join (signalTable.map fun entry => entry.1 ++ "\n"))
        return 0
      | .extended, [] =>
        say 1 signalColumns
        return 0
      | _, _ =>
        forOperands (fun text => do
          match machine.dialect, readNat? 10 text.toList with
          | _, some n =>
            let n := if 128 < n then n - 128 else n
            say 1 ((if n = 0 then "EXIT" else (signalName? n).getD (toString n)) ++ "\n")
            return 0
          | .common, none => abandon 2 ("Illegal number: " ++ text)
          | .extended, none =>
            match signalOf? machine.dialect text with
            | some n =>
              say 1 (toString n ++ "\n")
              return 0
            | none =>
              complainIn (text ++ ": invalid signal specification")
              return 1) operands
    else if operands.isEmpty then
      match machine.dialect with
      | .common =>
        abandon 2 ("Usage: kill [-s sigspec | -signum | -sigspec] [pid | job]... or\n" ++
          "kill -l [exitstatus]")
      | .extended =>
        sayUsage
        return 2
    else
      forOperands (fun text => do
        let number? ←
          if text.front == '%' then
            match machine.jobNamed text, machine.dialect with
            | .ok _, .common => pure (some absentProcess)
            | .ok job, .extended => pure (some job.last)
            | .error reason, .common => abandon 2 reason
            | .error _, .extended =>
              complainIn (text ++ ": no such job")
              pure none
          else
            let digits := if text.front == '-' then text.toList.drop 1 else text.toList
            match machine.dialect, readNat? 10 digits with
            | _, some n => pure (some (if n = 0 then machine.root else n))
            | .common, none => abandon 2 ("Illegal number: " ++ String.ofList digits)
            | .extended, none =>
              complainIn (text ++ ": arguments must be process or job IDs")
              pure none
        match number? with
        | none => return 1
        | some number =>
          if ← sendSignal signal number then return 0
          else
            match machine.dialect with
            | .common => complain "No such process\n"
            | .extended => complainIn ("(" ++ text ++ ") - No such process")
            return 1) operands

end Runbook.Shell
