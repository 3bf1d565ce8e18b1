import Runbook.Shell.Assignment
import Runbook.Shell.Binary
import Runbook.Shell.Called
import Runbook.Shell.Check
import Runbook.Shell.Fault
import Runbook.Shell.Listing
import Runbook.Shell.Menu
import Runbook.Shell.Startup
import Runbook.Shell.Target

/-!
# Running scripts

Commands are run with fuel: every call and every round of a loop takes some, and a script that uses
it up is told apart from one that ends. Each command looks at the system first, where signals may be
waiting for it.
-/

namespace Runbook.Shell

/-- How a command is run: whether its status is tested by what is around it, and whether the shell
has nothing to do behind it. -/
structure Manner where
  tested : Bool
  last : Bool
  deriving DecidableEq, Repr

namespace Manner

/-- The manner of a command like others. -/
def usual : Manner := ⟨false, false⟩

/-- The manner of a command whose status is tested. -/
def ofTest : Manner := ⟨true, false⟩

/-- The manner of a command with others behind it. -/
def inner (manner : Manner) : Manner := { manner with last := false }

end Manner

/-- The signals that wait for this process; they wait no more. -/
def pendingSignals : Act (List Nat) := do
  let me ← myself
  let isBusy := (← get).skip.isSome
  Act.ask fun state =>
    match state.process? me with
    | some process =>
      if isBusy || process.pending.isEmpty then ([], state)
      else
        (process.pending.mergeSort,
          state.updateProcess me fun process => { process with pending := [] })
    | none => ([], state)

/-- What is left to pass over behind a round of a loop: whether the loop goes on. -/
def passRound : Act Bool := do
  let machine ← get
  match machine.skip with
  | none => return true
  | some (.back _) => return false
  | some (.loopEnd levels) =>
    set { machine with skip := if levels ≤ 1 then none else some (.loopEnd (levels - 1)) }
    return false
  | some (.loopNext levels) =>
    if levels ≤ 1 then
      set { machine with skip := none }
      return true
    else
      set { machine with skip := some (.loopNext (levels - 1)) }
      return false

/-- Clears all traps: another program takes the place of this one. -/
def clearAllTraps : Act Unit := do
  clearTraps
  modify fun machine => { machine with traps := [] }

/-- Whether an error inside of a command ends the line that it stands on. -/
def isAbrupt (name : String) : Bool := ["eval", ".", "source"].contains name

/-- What messages tell about the text of a trap. -/
def trapPlace (signal : Nat) : String :=
  if signal = errorTrap then "error trap"
  else if signal = debugTrap then "debug trap"
  else if signal = returnTrap then "return trap"
  else "trap"

/-- The texts in a script that go on with its lines. -/
def innerInputs : List String := ["eval", "error trap", "debug trap", "return trap"]

/-- A word, or another one in place of an empty one. -/
def Wording.orText (wording : Wording) (text : String) : Wording :=
  if wording.word.isEmpty then .mk text [.text text false] else wording

/-- Keeps a job of some processes in mind. -/
def keepJob (text : String) (processes : List Nat) : Act Unit := do
  let number ← takeJobNumber
  modify fun machine =>
    { machine with
      jobs := machine.jobs ++ [⟨number, text, processes, false, false⟩]
      lastJob := processes.getLast? }

/-- The descriptor that reads what a command beside the shell writes. -/
def coprocessReader : Nat := 63

/-- The descriptor that writes what a command beside the shell reads. -/
def coprocessWriter : Nat := 60

mutual

/-- Runs commands as a shell within this one, in a process of their own. -/
def runWithin (fuel : Nat) (manner : Manner) (commands : List Command) : Act Unit :=
  match fuel with
  | 0 => throw .exhausted
  | fuel + 1 => do
    modify fun machine =>
      { machine with
        level := machine.level + 1
        jobs := if machine.isExtended then machine.jobs else []
        loops := if machine.isExtended then 0 else machine.loops
        trapStatus := none
        options := if machine.isExtended && !machine.settings.contains "inherit_errexit" then
          machine.options.filter fun c => c != 'e' || !manner.tested else machine.options }
    clearTraps
    runWhole fuel (runList fuel manner commands)
termination_by structural fuel

/-- Runs all that a shell has to run, and its trap for the end. -/
def runWhole (fuel : Nat) (act : Act Unit) : Act Unit :=
  match fuel with
  | 0 => throw .exhausted
  | fuel + 1 => do
    let exhausted ← try
        act
        pure false
      catch departure => pure (departure = .exhausted)
    if exhausted then throw .exhausted
    let machine ← get
    match machine.trap? exitTrap with
    | none | some "" => return ()
    | some text =>
      let status := machine.status
      set { machine with
        traps := machine.traps.filter (·.1 != exitTrap), skip := none, trapStatus := some status }
      let isOver ← try
          let _ ← runText fuel .usual (some "exit trap") text.toList
          pure true
        catch _ => pure false
      if isOver then setStatus status
termination_by structural fuel

/-- Runs the traps of the signals that have come. -/
def runTraps (fuel : Nat) : Act Unit :=
  match fuel with
  | 0 => throw .exhausted
  | fuel + 1 => do
    let signals ← pendingSignals
    runTrapsOf fuel signals
termination_by structural fuel

/-- Runs the traps of signals in order. -/
def runTrapsOf (fuel : Nat) (signals : List Nat) : Act Unit :=
  match fuel with
  | 0 => throw .exhausted
  | fuel + 1 => do
    match signals with
    | [] => return ()
    | signal :: others =>
      runTrap fuel signal
      runTrapsOf fuel others
termination_by structural fuel

/-- Runs the trap of a signal; the status is kept, unless the trap makes a function return one. What
is not a signal has no trap within its own. -/
def runTrap (fuel : Nat) (signal : Nat) : Act Unit :=
  match fuel with
  | 0 => throw .exhausted
  | fuel + 1 => do
    let machine ← get
    match machine.trap? signal with
    | none | some "" => return ()
    | some text =>
      if machine.trapped.contains signal && errorTrap ≤ signal then return ()
      else
        let status := machine.trapStatus.getD machine.status
        set { machine with trapStatus := some status, trapped := signal :: machine.trapped }
        let _ ← runText fuel .usual (some (trapPlace signal)) text.toList
        modify fun after =>
          { after with trapStatus := machine.trapStatus, trapped := machine.trapped }
        if (← get).skip != some (.back true) then setStatus status
termination_by structural fuel

/-- Runs the trap for all commands in front of one, which is told by a text. -/
def runDebug (fuel : Nat) (shown : String) : Act Unit :=
  match fuel with
  | 0 => throw .exhausted
  | fuel + 1 => do
    let machine ← get
    if machine.isExtended then
      if machine.trapped.isEmpty then set { machine with shown }
      if machine.callers.isEmpty || machine.has 'T' then runTrap fuel debugTrap
termination_by structural fuel

/-- Runs the text of a script; gives the status of what was run. The text comes from a file, or from
somewhere else that messages tell. Texts in a script go on with its lines. -/
def runText (fuel : Nat) (manner : Manner) (input : Option String) (text : List Char) : Act Nat :=
  match fuel with
  | 0 => throw .exhausted
  | fuel + 1 => do
    let machine ← get
    let isInner := machine.isExtended && input.any innerInputs.contains
    let first := if isInner then machine.line else 1
    set { machine with depth := machine.depth + 1, input }
    Act.ensuring (runSource fuel manner first text 0 (machine.source first text))
      (modify fun after => { after with depth := machine.depth, input := machine.input })
termination_by structural fuel

/-- Runs what is left of a script line by line, up to a line that cannot be read. -/
def runSource (fuel : Nat) (manner : Manner) (first : Nat) (text : List Char) (status : Nat)
    (source : Source) : Act Nat :=
  match fuel with
  | 0 => throw .exhausted
  | fuel + 1 => do
    let machine ← get
    let source := machine.source source.line source.rest
    let tells := machine.has 'v' && (machine.input.isNone || machine.isExtended)
    let tell (line : Nat) : Act Unit := do
      if tells then
        say 2 (linesBetween machine.isExtended (source.line + 1 - first) (line + 1 - first) text)
    match readLine source with
    | .error error =>
      tell (error.line + 1)
      tellFault first text error
      setStatus 2
      let isWhole := machine.input = some "-c" || (machine.input.isNone && machine.callers.isEmpty)
      if !machine.isExtended || isWhole then throw .fault
      else if machine.has 'e' then throw .leave
      else return 2
    | .ok (none, after) =>
      tell (after.line + 1)
      return status
    | .ok (some commands, source) =>
      tell source.line
      modify fun machine => { machine with hereTexts := source.hereTexts }
      let isLast := manner.last && source.isOver
      let goesOn ← try
          runList fuel { manner with last := isLast } commands
          pure true
        catch departure =>
          if departure = .fault && machine.isExtended && machine.level = 0 &&
              (machine.command.isNone || machine.command = some "eval") then
            modify fun after =>
              { after with
                skip := none, callers := machine.callers, functionLine := machine.functionLine
                loops := machine.loops, trapped := machine.trapped }
            pure true
          else throw departure
      let after ← get
      let status := if commands.isEmpty then status else after.status
      if goesOn && after.skip.isNone then runSource fuel manner first text status source
      else return status
termination_by structural fuel

/-- Runs commands one after another. -/
def runList (fuel : Nat) (manner : Manner) (commands : List Command) : Act Unit :=
  match fuel with
  | 0 => throw .exhausted
  | fuel + 1 => do
    match commands with
    | [] => return ()
    | [command] => runCommand fuel manner command
    | command :: rest =>
      runCommand fuel manner.inner command
      if (← get).skip.isNone then runList fuel manner rest
termination_by structural fuel

/-- Leaves the shell behind a command that failed, if it is to stop at failures. -/
def stopAtFailure (fuel : Nat) (manner : Manner) : Act Unit :=
  match fuel with
  | 0 => throw .exhausted
  | fuel + 1 => do
    let machine ← get
    if !manner.tested && machine.status != 0 then
      if machine.isExtended && (machine.callers.isEmpty || machine.has 'E') then
        runTrap fuel errorTrap
      if machine.has 'e' then throw .leave
termination_by structural fuel

/-- Runs a command. -/
def runCommand (fuel : Nat) (manner : Manner) (command : Command) : Act Unit :=
  match fuel with
  | 0 => throw .exhausted
  | fuel + 1 => do
    if (← get).has 'n' then return ()
    runTraps fuel
    match command with
    | .simple line assignments words redirects =>
      modify fun machine => { machine with line, substituted := none }
      runDebug fuel ((command.shown? (← get).hereTexts).getD "")
      runSimple fuel manner assignments words [] redirects
      stopAtFailure fuel manner
    | .declare line words lists redirects =>
      modify fun machine => { machine with line, substituted := none }
      runDebug fuel ((command.shown? (← get).hereTexts).getD "")
      runSimple fuel manner [] words lists redirects
      stopAtFailure fuel manner
    | .negate body =>
      runCommand fuel .ofTest body
      modify fun machine => { machine with status := if machine.status = 0 then 1 else 0 }
    | .pipeline parts =>
      runPipeline fuel manner parts
      stopAtFailure fuel manner
    | .both first second =>
      runCommand fuel .ofTest first
      let machine ← get
      if machine.status = 0 && machine.skip.isNone then runCommand fuel manner second
    | .either first second =>
      runCommand fuel .ofTest first
      let machine ← get
      if machine.status != 0 && machine.skip.isNone then runCommand fuel manner second
    | .subshell line body redirects =>
      modify fun machine => { machine with line }
      let run := runWithin fuel ⟨manner.tested, true⟩
      let targets ← expandTargets fuel run redirects
      let child ← startPart [] do
        modify fun machine => { machine with jobs := [] }
        match ← openOrTell targets with
        | some _ => run body
        | none => return ()
      let status ← awaitChild child
      modify fun machine => { machine with status, parts := [status] }
      stopAtFailure fuel manner
    | .background line text body =>
      modify fun machine => { machine with line }
      runBackground fuel text body
    | .group body => runList fuel manner body
    | .branch condition body otherwise =>
      runList fuel .ofTest condition
      let machine ← get
      if machine.skip.isNone then
        if machine.status = 0 then runList fuel manner body
        else
          setStatus 0
          if !otherwise.isEmpty then
            setStatus machine.status
            runList fuel manner otherwise
    | .loop whileTrue condition body =>
      modify fun machine => { machine with loops := machine.loops + 1 }
      let status ← runLoop fuel manner.inner whileTrue condition body 0
      modify fun machine => { machine with loops := machine.loops - 1, status }
    | .forEach line name words asks body =>
      modify fun machine => { machine with line }
      let head := loopHead asks name words
      let fields ←
        match words with
        | some words =>
          expandFields fuel (runWithin fuel ⟨false, true⟩) (words.map Wording.word)
        | none => pure (← get).arguments
      modify fun machine => { machine with loops := machine.loops + 1 }
      let status ←
        if asks then
          traceLine fuel head
          runDebug fuel head
          runSelect fuel manner.inner name fields body true 0
        else runForEach fuel manner.inner head name fields body 0
      modify fun machine => { machine with loops := machine.loops - 1, status }
    | .count line start condition step body =>
      modify fun machine => { machine with line }
      let _ ← calculateWord fuel (start.orText "1")
      modify fun machine => { machine with loops := machine.loops + 1 }
      let status ← runCount fuel manner.inner (condition.orText "1") (step.orText "1") body 0
      modify fun machine => { machine with loops := machine.loops - 1, status }
    | .choose line word clauses =>
      modify fun machine => { machine with line }
      traceLine fuel ("case " ++ word.text ++ " in")
      runDebug fuel (choiceHead word)
      let text ← expandText fuel (runWithin fuel ⟨false, true⟩) word.word
      runClauses fuel manner ((← get).units text) clauses
    | .calculate line expression =>
      modify fun machine => { machine with line }
      let value ← calculateWord fuel expression
      let status := if value.any (· != 0) then 0 else 1
      modify fun machine => { machine with status, parts := [status] }
      stopAtFailure fuel manner
    | .check line condition =>
      modify fun machine => { machine with line }
      runDebug fuel ((command.shown? #[]).getD "")
      try
        let holds ←
          checkCondition fuel (runWithin fuel ⟨false, true⟩) (traceLine fuel) false condition
        setStatus (if holds then 0 else 1)
      catch departure =>
        if departure != .fault then throw departure
      modify fun machine => { machine with parts := [machine.status] }
      stopAtFailure fuel manner
    | .define line name body =>
      let machine ← get
      if (machine.functions.lookup name).any Function.readOnly then
        modify fun machine => { machine with line }
        complain (name ++ ": readonly function")
        setStatus 1
      else
        let source := (machine.stack.head?.map Caller.source).getD "environment"
        let others := machine.functions.filter (·.1 != name)
        set { machine with
          functions := (name, ⟨line, body, source, false, false⟩) :: others, status := 0 }
    | .coprocess line name text body =>
      modify fun machine => { machine with line }
      runCoprocess fuel name text body
    | .redirected line body redirects =>
      modify fun machine => { machine with line }
      let passing := (← get).passing
      let targets ← expandTargets fuel (runWithin fuel ⟨false, true⟩) redirects
      match ← openOrTell targets with
      | some saved => Act.ensuring (runCommand fuel manner.inner body) (restore saved)
      | none =>
        let isExtended := (← get).isExtended
        if isExtended then stopAtFailure fuel manner
      closePassed passing
    runTraps fuel
termination_by structural fuel

/-- The value of an expression that a word spells. -/
def calculateWord (fuel : Nat) (expression : Wording) : Act (Option Int) :=
  match fuel with
  | 0 => throw .exhausted
  | fuel + 1 => do
    runDebug fuel (listedExpression expression)
    let run := runWithin fuel ⟨false, true⟩
    let text := plainText (← expandWord fuel run false expression.word)
    traceLine fuel ("(( " ++ text ++ " ))")
    if text.all (· == ' ') then return some 0 else calculate (some "((") text
termination_by structural fuel

/-- Runs a conditional loop; `last` is the status of its body so far. -/
def runLoop (fuel : Nat) (manner : Manner) (whileTrue : Bool) (condition body : List Command)
    (last : Nat) : Act Nat :=
  match fuel with
  | 0 => throw .exhausted
  | fuel + 1 => do
    runList fuel .ofTest condition
    let machine ← get
    if machine.skip.isSome then
      let status := match machine.skip with
        | some (.back _) => machine.status
        | _ => last
      if ← passRound then runLoop fuel manner whileTrue condition body status else return status
    else if (machine.status = 0) = whileTrue then
      runList fuel manner body
      let status := (← get).status
      if ← passRound then runLoop fuel manner whileTrue condition body status else return status
    else return last
termination_by structural fuel

/-- Runs the body of a loop for each field; the first line of the loop is given. -/
def runForEach (fuel : Nat) (manner : Manner) (head name : String) (fields : List String)
    (body : List Command) (last : Nat) : Act Nat :=
  match fuel with
  | 0 => throw .exhausted
  | fuel + 1 => do
    match fields with
    | [] => return last
    | field :: rest =>
      traceLine fuel head
      runDebug fuel head
      assignText name (← taken ((← get).entry name) "" field false)
      runList fuel manner body
      let status := (← get).status
      if ← passRound then runForEach fuel manner head name rest body status else return status
termination_by structural fuel

/-- Runs the body of a loop for the fields that answers choose, which are read line by line. -/
def runSelect (fuel : Nat) (manner : Manner) (name : String) (fields : List String)
    (body : List Command) (shows : Bool) (last : Nat) : Act Nat :=
  match fuel with
  | 0 => throw .exhausted
  | fuel + 1 => do
    if fields.isEmpty then return last
    else
      let machine ← get
      let cells := ((machine.textOf? "COLUMNS").bind fun text => readNat? 10 text.toList).getD 80
      if shows then say 2 (menuText cells fields)
      say 2 ((machine.textOf? "PS3").getD "#? ")
      let (line, ended) ← readMarked 100000 0 '\n' false none
      assignText "REPLY" (String.ofList (line.map (·.1)))
      if !ended then
        say 1 "\n"
        return 1
      else if line.isEmpty then runSelect fuel manner name fields body true last
      else
        assignText name (chosenField fields (String.ofList (line.map (·.1))))
        runList fuel manner body
        let status := (← get).status
        if ← passRound then
          runSelect fuel manner name fields body ((← get).textOf "REPLY" = "") status
        else return status
termination_by structural fuel

/-- Runs a loop that counts. -/
def runCount (fuel : Nat) (manner : Manner) (condition step : Wording) (body : List Command)
    (last : Nat) : Act Nat :=
  match fuel with
  | 0 => throw .exhausted
  | fuel + 1 => do
    match ← calculateWord fuel condition with
    | none => return 1
    | some 0 => return last
    | some _ =>
      runList fuel manner body
      let status := (← get).status
      if ← passRound then
        let _ ← calculateWord fuel step
        runCount fuel manner condition step body status
      else return status
termination_by structural fuel

/-- Runs the first clause with a pattern that stands for the text, and what it says to go on
with. -/
def runClauses (fuel : Nat) (manner : Manner) (text : List Char)
    (clauses : List (List Wording × List Command × String)) : Act Unit :=
  match fuel with
  | 0 => throw .exhausted
  | fuel + 1 => do
    match clauses with
    | [] => setStatus 0
    | (patterns, body, mark) :: rest =>
      if ← anyMatches fuel text patterns then runClause fuel manner text body mark rest
      else runClauses fuel manner text rest
termination_by structural fuel

/-- Runs a clause, and what it says to go on with. -/
def runClause (fuel : Nat) (manner : Manner) (text : List Char) (body : List Command)
    (mark : String)
    (rest : List (List Wording × List Command × String)) : Act Unit :=
  match fuel with
  | 0 => throw .exhausted
  | fuel + 1 => do
    if body.isEmpty then setStatus 0
    else runList fuel (if mark = ";;" then manner else manner.inner) body
    match mark, rest with
    | ";&", (_, body, mark) :: rest => runClause fuel manner text body mark rest
    | ";;&", rest => if !rest.isEmpty then runClauses fuel manner text rest
    | _, _ => return ()
termination_by structural fuel

/-- Whether one of some patterns stands for a text. -/
def anyMatches (fuel : Nat) (text : List Char) (patterns : List Wording) : Act Bool :=
  match fuel with
  | 0 => throw .exhausted
  | fuel + 1 => do
    match patterns with
    | [] => return false
    | word :: rest =>
      let pattern ← expandPattern fuel (runWithin fuel ⟨false, true⟩) word.word
      if matchesPattern pattern text then return true else anyMatches fuel text rest
termination_by structural fuel

/-- Runs the commands of a pipeline, each in a process of its own. -/
def runPipeline (fuel : Nat) (manner : Manner) (parts : List Command) : Act Unit :=
  match fuel with
  | 0 => throw .exhausted
  | fuel + 1 => do
    let _ ← takeJobNumber
    let children ← startParts fuel manner none parts
    let statuses ← awaitChildren children
    let machine ← get
    let failed := if machine.has '|' then statuses.reverse.find? (· != 0) else statuses.getLast?
    set { machine with parts := statuses, status := failed.getD 0 }
termination_by structural fuel

/-- Starts the commands of a pipeline; the first one reads from a stream if one is given. -/
def startParts (fuel : Nat) (manner : Manner) (input : Option Nat) (parts : List Command) :
    Act (List Nat) :=
  match fuel with
  | 0 => throw .exhausted
  | fuel + 1 => do
    let reads : List (Nat × Option Nat) := (input.map fun stream => (0, some stream)).toList
    match parts.head?.bind (Command.shown? (← get).hereTexts) with
    | some shown => runDebug fuel shown
    | none => pure ()
    match parts with
    | [] => return []
    | [last] => return [← startChild reads (runWithin fuel ⟨manner.tested, true⟩ [last])]
    | part :: rest =>
      let (reader, writer) ← openPipe
      let child ← startChild (reads ++ [(1, some writer)])
        (runWithin fuel ⟨manner.tested, true⟩ [part])
      return child :: (← startParts fuel manner (some reader) rest)
termination_by structural fuel

/-- Runs a command in the background; its input is empty. -/
def runBackground (fuel : Nat) (text : String) (body : Command) : Act Unit :=
  match fuel with
  | 0 => throw .exhausted
  | fuel + 1 => do
    let nothing ← Act.ask fun state => state.openStream (.toRead .nothing)
    let ignoring (act : Act Unit) : Act Unit := do
      takeSignal Host.interruptSignal (some "")
      takeSignal 3 (some "")
      act
    let children ←
      match body with
      | .pipeline parts => startParts fuel .usual (some nothing) parts
      | body => pure [← startChild [(0, some nothing)]
          (ignoring (runWithin fuel ⟨false, true⟩ [body]))]
    keepJob text children
    setStatus 0
termination_by structural fuel

/-- Runs a command in the background, with its input and output in a list under a name. -/
def runCoprocess (fuel : Nat) (name text : String) (body : Command) : Act Unit :=
  match fuel with
  | 0 => throw .exhausted
  | fuel + 1 => do
    let (inputReader, inputWriter) ← openPipe
    let (outputReader, outputWriter) ← openPipe
    let child ← startChild [(0, some inputReader), (1, some outputWriter)]
      (runWithin fuel ⟨false, true⟩ [body])
    connect coprocessReader (some outputReader)
    connect coprocessWriter (some inputWriter)
    keepJob text [child]
    assignElements name false false
      [(none, toString coprocessReader), (none, toString coprocessWriter)]
    assignText (name ++ "_PID") (toString child)
    setStatus 0
termination_by structural fuel

/-- Runs a simple command in the way of the dialect. -/
def runSimple (fuel : Nat) (manner : Manner) (assignments : List Assignment) (words : List Wording)
    (lists : List Assignment) (redirects : List Redirect) : Act Unit :=
  match fuel with
  | 0 => throw .exhausted
  | fuel + 1 => do
    match (← get).dialect with
    | .common => runCommon fuel manner assignments words redirects
    | .extended => runExtended fuel manner assignments words lists redirects
termination_by structural fuel

/-- Runs a simple command of the common language: its words are expanded, then its redirections and
assignments are made, and then it is looked up. -/
def runCommon (fuel : Nat) (manner : Manner) (assignments : List Assignment) (words : List Wording)
    (redirects : List Redirect) : Act Unit :=
  match fuel with
  | 0 => throw .exhausted
  | fuel + 1 => do
    let machine ← get
    let run := runWithin fuel ⟨false, true⟩
    let note (_ : String) : Act Unit := return ()
    let fields ← expandArguments fuel run [] (words.map Wording.word)
    let targets ← expandTargets fuel run redirects
    let errorStream ← streamOf? 2
    match fields with
    | [] =>
      match ← openOrTell targets with
      | none => return ()
      | some saved =>
        let shown ← assignAll fuel run note true false assignments
        traceWords fuel errorStream shown
        restore saved
        setStatus ((← get).substituted.getD 0)
    | name :: arguments =>
      let isSpecial := machine.isSpecial name && (machine.functions.lookup name).isNone
      let called :=
        calledCommand (arguments.length + 1) machine ⟨name, arguments, false, false, isSpecial⟩
      let isExec := called.name = "exec"
      match ← openOrTell targets with
      | none => if called.isSpecial then throw .fault
      | some saved =>
        if !called.isSpecial then openFrame
        let undo : Act Unit := do
          if !(isExec && called.arguments.isEmpty) then restore saved
          if !called.isSpecial then closeFrame
        Act.ensuring
          (do
            let shown ← assignAll fuel run note called.isSpecial
              (isExec && !called.arguments.isEmpty) assignments
            traceWords fuel errorStream (shown ++ fields)
            runCalled fuel manner called)
          undo
termination_by structural fuel

/-- Runs a simple command of the extended language: its words are expanded, then its assignments are
made, then its redirections, and then it is looked up. The lists of a declaration are put in place
behind it. -/
def runExtended (fuel : Nat) (manner : Manner) (assignments : List Assignment)
    (words : List Wording)
    (lists : List Assignment) (redirects : List Redirect) : Act Unit :=
  match fuel with
  | 0 => throw .exhausted
  | fuel + 1 => do
    let run := runWithin fuel ⟨false, true⟩
    let note := traceLine fuel
    let fields ← expandArguments fuel run [] (words.map Wording.word)
    let machine ← get
    match fields with
    | [] =>
      let _ ← assignAll fuel run note true false assignments
      let targets ← expandTargets fuel run redirects
      match ← openOrTell targets with
      | none => return ()
      | some saved =>
        restore saved
        let status := (← get).substituted.getD 0
        modify fun machine => { machine with status, parts := [status] }
    | name :: arguments =>
      let called :=
        calledCommand (arguments.length + 1) machine ⟨name, arguments, false, false, false⟩
      let isExec := called.name = "exec" && machine.isOwn "exec"
      let texts ← expandLists fuel run note lists
      let localizes := !machine.keepsIn called.name
      if localizes then openFrame
      let undo : Act Unit := do
        closePassed machine.passing
        if localizes then closeFrame
      Act.ensuring
        (do
          let _ ← assignAll fuel run note (!localizes)
            (isExec && !called.arguments.isEmpty) assignments
          note (" ".intercalate (fields.map machine.traced))
          let targets ← expandTargets fuel run redirects
          match ← openOrTell targets with
          | none => return ()
          | some saved =>
            Act.ensuring
              (do
                if ["export", "readonly"].contains called.name then
                  traceSettings fuel called.arguments
                runCalled fuel manner called
                if (← get).status = 0 then
                  for (name, appends, elements) in texts do
                    assignElements name appends true elements)
              (if isExec && called.arguments.isEmpty then pure () else restore saved))
        undo
      modify fun machine =>
        { machine with parts := [machine.status], lastArgument := fields.getLast?.getD "" }
termination_by structural fuel

/-- Traces the values that operands give to variables. -/
def traceSettings (fuel : Nat) (operands : List String) : Act Unit :=
  match fuel with
  | 0 => throw .exhausted
  | fuel + 1 => do
    match operands with
    | [] => return ()
    | operand :: rest =>
      match splitOperand operand with
      | (name, some value, _) =>
        if isVariableName name then traceLine fuel (name ++ "=" ++ tracedValue value)
      | _ => pure ()
      traceSettings fuel rest
termination_by structural fuel

/-- Tells what is run, if asked for. -/
def traceWords (fuel : Nat) (stream : Option Nat) (words : List String) : Act Unit :=
  match fuel with
  | 0 => throw .exhausted
  | fuel + 1 => do
    let machine ← get
    if machine.has 'x' && !machine.tracing && !words.isEmpty then
      set { machine with tracing := true }
      let front ← tracePrompt fuel (runWithin fuel ⟨false, true⟩)
      modify fun machine => { machine with tracing := false, status := machine.status }
      sayTo stream (front ++ " ".intercalate words ++ "\n")
termination_by structural fuel

/-- Tells what is run in a line, if asked for; only the extended language does so. -/
def traceLine (fuel : Nat) (text : String) : Act Unit :=
  match fuel with
  | 0 => throw .exhausted
  | fuel + 1 => do
    let machine ← get
    if machine.isExtended && machine.has 'x' then traceWords fuel (← streamOf? 2) [text]
termination_by structural fuel

/-- Runs a command by what it is: a function, a command of the shell, or a program. -/
def runCalled (fuel : Nat) (manner : Manner) (called : Called) : Act Unit :=
  match fuel with
  | 0 => throw .exhausted
  | fuel + 1 => do
    let machine ← get
    let function? := if called.skipsFunctions then none else machine.functions.lookup called.name
    match function?, machine.isOwn called.name with
    | some function, _ => callFunction fuel manner called.name function called.arguments
    | none, true => runOwn fuel manner called
    | none, false =>
      match ← findCommand called.name called.standardPath with
      | .error status => setStatus status
      | .ok path =>
        let act := becomeProgram fuel path (called.name :: called.arguments)
        if manner.last && !machine.hasTraps then act
        else setStatus (← awaitChild (← startPart [] act))
termination_by structural fuel

/-- Runs a function. A trap for its end that is set outside of it is not run, unless asked for. -/
def callFunction (fuel : Nat) (manner : Manner) (name : String) (function : Function)
    (arguments : List String) : Act Unit :=
  match fuel with
  | 0 => throw .exhausted
  | fuel + 1 => do
    let before ← get
    let outer := if before.has 'T' then none else before.trap? returnTrap
    let others := before.traps.filter (·.1 != returnTrap)
    set { before with
      arguments, option := 1, optionOffset := 0, loops := 0
      traps := if outer.isSome then others else before.traps
      functionLine := some function.line
      callers := ⟨name, before.line, function.source⟩ :: before.callers }
    let last : Act Unit := do
      modify fun machine => { machine with skip := machine.skip.filter fun skip => !skip.isBack }
      runTrap fuel returnTrap
    Act.ensuring
      (do
        runCommand fuel ⟨manner.tested, false⟩ function.body
        last)
      (modify fun machine =>
        let traps : List (Nat × String) :=
          match outer with
          | some text => (returnTrap, text) :: machine.traps.filter (·.1 != returnTrap)
          | none => machine.traps
        { machine with
          traps, arguments := before.arguments, option := before.option
          optionOffset := before.optionOffset, loops := before.loops
          functionLine := before.functionLine, callers := before.callers
          skip := machine.skip.filter fun skip => !skip.isBack })
termination_by structural fuel

/-- Runs a command of the shell. Its errors end the script if it is special. -/
def runOwn (fuel : Nat) (manner : Manner) (called : Called) : Act Unit :=
  match fuel with
  | 0 => throw .exhausted
  | fuel + 1 => do
    let outer := (← get).command
    modify fun machine =>
      { machine with
        command := some (if called.name = "chdir" then "chdir" else called.name)
        outputFailed := false }
    let failed ← try
        let status ← runUtility fuel manner called.name called.arguments
        setStatus status
        pure false
      catch departure =>
        if departure = .fault then pure true
        else
          modify fun machine => { machine with command := outer }
          throw departure
    let machine ← get
    if machine.outputFailed then
      match machine.dialect with
      | .common => complain (called.name ++ ": I/O error")
      | .extended => complainIn "write error: Bad file descriptor"
      setStatus (machine.status ||| 1)
    modify fun machine => { machine with command := outer, outputFailed := false }
    if failed && (called.isSpecial || (machine.isExtended && isAbrupt called.name)) then
      throw .fault
termination_by structural fuel

/-- The status of a command of the shell: one that runs others itself, or any other. -/
def runUtility (fuel : Nat) (manner : Manner) (name : String) (arguments : List String) : Act Nat :=
  match fuel with
  | 0 => throw .exhausted
  | fuel + 1 => do
    let machine ← get
    match name with
    | "eval" =>
      let words := behindMark arguments
      if words.isEmpty then return 0
      else runText fuel ⟨manner.tested, false⟩ (some "eval") (" ".intercalate words).toList
    | "exec" => runExec fuel arguments
    | "." | "source" => runFile fuel (behindMark arguments)
    | "command" | "builtin" => tellNames name arguments
    | _ =>
      match machine.ownUtility? name with
      | some utility => utility arguments
      | none => return 0
termination_by structural fuel

/-- Goes on as a program, or with other descriptors. -/
def runExec (fuel : Nat) (arguments : List String) : Act Nat :=
  match fuel with
  | 0 => throw .exhausted
  | fuel + 1 => do
    let machine ← get
    let (options, operands) ← optionsOf (if machine.isExtended then "cla:" else "") arguments
    match operands with
    | [] => return 0
    | name :: _ =>
      match machine.searchFor (← theDisk) machine.search name with
      | .program path =>
        let shown := (options.lookup 'a').getD name
        if hasOption options 'c' then
          modify fun machine => { machine with bindings := [] }
        clearAllTraps
        becomeProgram fuel path (shown :: operands.drop 1)
        return 0
      | .refused path =>
        let error := runError (← theDisk) machine.directory .common path
        let status ← refuseExec name error
        setStatus status
        throw .leave
      | .absent =>
        let disk ← theDisk
        let error :=
          if name.toList.contains '/' then runError disk machine.directory .common name
          else .notFound
        let status ← refuseExec name error
        setStatus status
        throw .leave
termination_by structural fuel

/-- Runs a file in this shell. -/
def runFile (fuel : Nat) (arguments : List String) : Act Nat :=
  match fuel with
  | 0 => throw .exhausted
  | fuel + 1 => do
    let machine ← get
    match arguments with
    | [] =>
      match machine.dialect with
      | .common => return 0
      | .extended =>
        complainIn "filename argument required"
        sayUsage
        return 2
    | name :: arguments =>
      match ← fileToRun name with
      | .error status => return status
      | .ok (path, text) =>
        let inner : Machine :=
          match machine.dialect with
          | .common => { machine with command := some path }
          | .extended =>
            { machine with
              command := none, callers := ⟨"source", machine.line, path⟩ :: machine.callers
              arguments := if arguments.isEmpty then machine.arguments else arguments }
        set inner
        let status ← runText fuel .usual none text.toList
        modify fun after =>
          { after with skip := after.skip.filter fun skip => !skip.isBack, status }
        if machine.isExtended then runTrap fuel returnTrap
        modify fun after =>
          { after with
            command := machine.command, callers := machine.callers
            arguments := if machine.isExtended && !arguments.isEmpty then machine.arguments
              else after.arguments }
        return status
termination_by structural fuel

/-- Goes on as a program: this process ends with it. -/
def becomeProgram (fuel : Nat) (path : String) (words : List String) : Act Unit :=
  match fuel with
  | 0 => throw .exhausted
  | fuel + 1 => do
    clearAllTraps
    let machine ← get
    let name := words.headD path
    match (← theDisk).stat machine.directory (diskPath path) with
    | .ok (_, .file bytes true) =>
      match Executable.ofBytes bytes with
      | .known program =>
        set (machine.asProgram name)
        let status ← program (toolsWith fuel) (words.drop 1)
        setStatus status
        throw .leave
      | .shell dialect => becomeShell fuel dialect name (words.drop 1)
      | .script interpreter argument =>
        match (← theDisk).stat machine.directory (diskPath interpreter) with
        | .ok (_, .file _ true) =>
          becomeProgram fuel interpreter
            (interpreter :: argument.toList ++ path :: words.drop 1)
        | _ =>
          let status ←
            match machine.dialect with
            | .common => refuseProgram name .notFound
            | .extended => do
              complain (name ++ ": cannot execute: required file not found")
              pure 127
          setStatus status
          throw .leave
      | .unmarked => becomeShell fuel machine.dialect name (path :: words.drop 1)
    | .ok _ =>
      setStatus (← refuseProgram name .denied)
      throw .leave
    | .error error =>
      setStatus (← refuseProgram name error)
      throw .leave
termination_by structural fuel

/-- Goes on as a shell. -/
def becomeShell (fuel : Nat) (dialect : Dialect) (name : String) (words : List String) : Act Unit :=
  match fuel with
  | 0 => throw .exhausted
  | fuel + 1 => do
    let machine ← get
    let refuse {α : Type} (status : Nat) (message : String) : Act α := do
      say 2 (name ++ ": " ++ (if dialect = .common then "0: " else "") ++ message ++ "\n")
      setStatus status
      throw .leave
    match readStart (words.length + 1) dialect ⟨[], false, false, words⟩ with
    | .error message => refuse 2 message
    | .ok start =>
      let begin (name : String) (arguments : List String) (more : List Char) : Act Unit := do
        let inner := machine.asShell dialect name arguments
        set { inner with options := more ++ start.options ++ inner.options }
      let given := machine.environment
      let read (text : String) (isText : Bool) : Act Unit := do
        if dialect = .extended then takeFunctions fuel given
        let input := if isText then some "-c" else none
        runWhole fuel (do let _ ← runText fuel ⟨false, isText⟩ input text.toList)
        throw .leave
      if start.isText then
        match start.rest with
        | [] =>
          refuse 2 (match dialect with
            | .common => "-c requires an argument"
            | .extended => "-c: option requires an argument")
        | text :: rest =>
          begin (rest.headD name) (rest.drop 1) ['c']
          read text true
      else
        match start.isInput, start.rest with
        | false, path :: arguments =>
          match ← readOperand path with
          | .ok text =>
            begin path arguments []
            if dialect = .extended then modify fun machine => { machine with file := some path }
            read text false
          | .error error =>
            match dialect with
            | .common => refuse 2 (openingText .common false path error)
            | .extended =>
              refuse (if error = .notFound then 127 else 126) (path ++ ": " ++ error.text)
        | _, arguments =>
          let text := (← readAll 0).toOption.getD ""
          begin name arguments ['s']
          read text false
termination_by structural fuel

/-- Takes over the functions that are given to a shell. -/
def takeFunctions (fuel : Nat) (given : List (String × String)) : Act Unit :=
  match fuel with
  | 0 => throw .exhausted
  | fuel + 1 => do
    match given with
    | [] => return ()
    | (name, text) :: rest =>
      match givenName? name with
      | some name =>
        let _ ← runText fuel .usual (some "environment") (name ++ " " ++ text).toList
        let _ ← changeFunction (fun function => { function with exported := true }) name
      | none => pure ()
      takeFunctions fuel rest
termination_by structural fuel

/-- What programs use to carry out other ones. -/
def toolsWith (fuel : Nat) : Tools :=
  match fuel with
  | 0 => ⟨fun _ _ => return .error .notFound, fun _ => return .notFound⟩
  | fuel + 1 =>
    let find (words : List String) : Act (Except DiskError String) := do
      let machine ← get
      let name := words.headD ""
      let disk ← theDisk
      match machine.searchFor disk (programSearch machine) name with
      | .program path => return .ok path
      | .refused path => return .error (runError disk machine.directory .common path)
      | .absent => return .error .notFound
    { start connections words := do
        match ← find words with
        | .ok path => return .ok (← startChild connections (becomeProgram fuel path words))
        | .error error => return .error error
      become words := do
        match ← find words with
        | .ok path =>
          becomeProgram fuel path words
          return .notFound
        | .error error => return error }
termination_by structural fuel

end

end Runbook.Shell
