import Runbook.Number.Power
import Runbook.Shell.Builtin.Signals
import Runbook.Shell.Utility.Basic

/-!
# Programs that carry out others

These programs set something up for another one: its variables, its time, or its arguments, which
may come from a text.
-/

namespace Runbook.Shell

/-- The status for a program that cannot be run. -/
def startStatus (error : DiskError) : Nat := if error.meansAbsent then 127 else 126

/-- Goes on as another program; a failure is told. -/
def becoming (tools : Tools) (what : String → String) (words : List String) : Act Nat := do
  let error ← tools.become words
  report (what (words.headD "") ++ ": " ++ error.text)
  return startStatus error

/-- Lists variables, or goes on as a program with others. -/
def env : Program := fun tools =>
  withOptions ⟨"iu:C:0v", [("ignore-environment", 'i'), ("unset", 'u'), ("chdir", 'C'),
    ("null", '0'), ("debug", 'v')], true⟩ 125 fun options operands => do
      let (clears, operands) :=
        match operands with
        | "-" :: rest => (true, rest)
        | _ => (hasOption options 'i', operands)
      if clears then modify fun machine => { machine with bindings := [] }
      for (letter, name) in options do
        if letter == 'u' then modify fun machine => machine.unset name
      let isSetting (word : String) : Bool := word.toList.contains '='
      for word in operands.takeWhile isSetting do
        let name := word.toList.takeWhile (· != '=')
        modify fun machine =>
          machine.putVariable (String.ofList name)
            { Variable.unset with
              content := some (.single (String.ofList (word.toList.drop (name.length + 1))))
              exported := true }
      let words := operands.dropWhile isSetting
      match lastValue? options 'C', words with
      | some _, [] => refuseUsage "must specify command with --chdir (-C)" 125
      | some path, _ =>
        match ← entryAt path with
        | .ok (place, .directory) =>
          modify fun machine => { machine with directory := place }
          becoming tools named words
        | .ok _ => refusePath path .notDirectory
        | .error error => refusePath path error
      | none, [] =>
        let entries := (← get).environment
        say 1 (String.join (entries.map fun (name, text) =>
          name ++ "=" ++ text ++ if hasOption options '0' then "\x00" else "\n"))
        return 0
      | none, _ =>
        if hasOption options '0' then refuseUsage "cannot specify --null (-0) with command" 125
        else becoming tools named words
where
  named (name : String) : String := "‘" ++ name ++ "’"
  refusePath (path : String) (error : DiskError) : Act Nat := do
    report ("cannot change directory to ‘" ++ path ++ "’: " ++ error.text)
    return 125

/-- Tells the values of variables, or all variables. -/
def printenv : Program := fun _ =>
  withOptions ⟨"0", [("null", '0')], true⟩ 2 fun options operands => do
    let entries := (← get).environment
    let ending := if hasOption options '0' then "\x00" else "\n"
    if operands.isEmpty then
      say 1 (String.join (entries.map fun (name, text) => name ++ "=" ++ text ++ ending))
      return 0
    else
      forOperands (fun name => do
        match entries.lookup name with
        | some text =>
          say 1 (text ++ ending)
          return 0
        | none => return 1) operands

/-- The time that a text spells, in microseconds: a number of seconds, or of what the letter behind
it says. -/
def timeOf? (text : String) : Option Nat :=
  let s := text.toList
  let number := s.takeWhile fun c => c.isDigit || c == '.'
  let whole := number.takeWhile Char.isDigit
  let part := (number.drop whole.length).drop 1
  let factor? : Option Nat :=
    match s.drop number.length with
    | [] | ['s'] => some 1
    | ['m'] => some 60
    | ['h'] => some 3600
    | ['d'] => some 86400
    | _ => none
  if part.contains '.' then none
  else do
    let n ← readNat? 10 (whole ++ part)
    let factor ← factor?
    return (n * factor * 1000000 + tenTo part.length - 1) / tenTo part.length

/-- Lets this process sleep for a time, but not longer than a condition asks for. -/
def sleepUntil (micros : Nat) (done : Host.State → Bool) : Act Unit := do
  let me ← myself
  Act.change fun state =>
    state.updateProcess me fun process => { process with wakes := some (state.clock + micros) }
  Act.await fun state =>
    done state || (state.process? me).all fun process => process.wakes.isNone
  Act.change fun state => state.updateProcess me fun process => { process with wakes := none }

/-- Sleeps for the sum of some times. -/
def sleep : Program := fun _ =>
  withOptions ⟨"", [], false⟩ 1 fun _ => needing "operand" fun operands => do
    let isWrong (text : String) : Bool := (timeOf? text).isNone && text != "infinity"
    match operands.filter isWrong with
    | [] =>
      if operands.contains "infinity" then Act.await fun _ => false
      else
        let time := sumOf (operands.filterMap timeOf?)
        if 0 < time then sleepUntil time fun _ => false
      return 0
    | wrong =>
      for text in wrong.dropLast do report ("invalid time interval ‘" ++ text ++ "’")
      refuseUsage ("invalid time interval ‘" ++ wrong.getLast?.getD "" ++ "’") 1

/-- Whether a process was started by another one, or by one that it started. -/
def isBelow (fuel : Nat) (state : Host.State) (number other : Nat) : Bool :=
  match fuel with
  | 0 => false
  | fuel + 1 =>
    match state.process? number with
    | some process => process.parent = other || isBelow fuel state process.parent other
    | none => false

/-- Sends a signal to all processes below this one. -/
def sendBelow (signal : Nat) : Act Unit := do
  let me ← myself
  Act.change fun state =>
    let below := (state.processes.map (·.1)).filter fun number => isBelow 64 state number me
    below.foldl (fun state number => state.send number signal) state

/-- Carries out a program for at most some time. -/
def timeout : Program := fun tools =>
  withOptions ⟨"fk:ps:v", [("foreground", 'f'), ("kill-after", 'k'), ("preserve-status", 'p'),
    ("signal", 's'), ("verbose", 'v')], true⟩ 125 fun options operands => do
      let signalText := (lastValue? options 's').getD "TERM"
      match operands, (lastValue? options 'k').getD "0" with
      | time :: name :: rest, grace =>
        match timeOf? time, timeOf? grace, signalOf? .extended signalText with
        | none, _, _ => refuseUsage ("invalid time interval ‘" ++ time ++ "’") 125
        | _, none, _ => refuseUsage ("invalid time interval ‘" ++ grace ++ "’") 125
        | _, _, none => refuseUsage ("‘" ++ signalText ++ "’: invalid signal") 125
        | some micros, some more, some signal =>
          match ← tools.start [] (name :: rest) with
          | .error error =>
            report ("failed to run command ‘" ++ name ++ "’: " ++ error.text)
            return startStatus error
          | .ok child =>
            let isDone (state : Host.State) : Bool := state.isOver child
            if micros = 0 then return endStatus (← awaitProcess child)
            else
              sleepUntil micros isDone
              if ← Act.look isDone then return endStatus (← awaitProcess child)
              else
                sendBelow signal
                if 0 < more then
                  sleepUntil more isDone
                  unless ← Act.look isDone do sendBelow Host.killSignal
                let ending ← awaitProcess child
                let isKilled := ending = .killed Host.killSignal
                return if hasOption options 'p' || isKilled then endStatus ending else 124
      | _, _ =>
        say 2 ("Try '" ++ (← get).name ++ " --help' for more information.\n")
        return 125

/-- Goes on as a program that does not mind the end of a session. -/
def nohup : Program := fun tools =>
  withOptions ⟨"", [], true⟩ 125 fun _ operands => do
    if operands.isEmpty then refuseUsage "missing operand" 125
    else
      takeSignal 1 (some "")
      becoming tools (fun name => "failed to run command ‘" ++ name ++ "’") operands

/-- Goes on as a program that gives way to others. -/
def nice : Program := fun tools =>
  withOptions ⟨"n:", [("adjustment", 'n')], true⟩ 125 fun options operands => do
    if operands.isEmpty then
      match lastValue? options 'n' with
      | some _ => refuseUsage "a command must be given with an adjustment" 125
      | none =>
        say 1 "0\n"
        return 0
    else becoming tools (fun name => "‘" ++ name ++ "’") operands

/-- How a text is taken apart into arguments: at a mark, line by line, or at blanks; outside of
marks, quotes and backslashes protect characters. -/
inductive ArgumentStyle where
  | marked (mark : Char)
  | lines
  | blanks
  deriving DecidableEq, Repr

/-- An argument with the number of the line that it ends on. -/
abbrev PlacedArgument := Nat × String

/-- Takes a text apart. The argument that is being read comes with whether it was begun; a line end
behind a blank does not end a line. -/
def splitArguments (fuel : Nat) (style : ArgumentStyle) (line : Nat) (taken : Option (List Char))
    (behindBlank : Bool) (s : List Char) : Except String (List PlacedArgument) :=
  match fuel with
  | 0 => .ok []
  | fuel + 1 =>
    let put (line : Nat) (rest : Except String (List PlacedArgument)) :
        Except String (List PlacedArgument) :=
      match taken with
      | some text => rest.map ((line, String.ofList text.reverse) :: ·)
      | none => rest
    let add (c : Char) (rest : List Char) : Except String (List PlacedArgument) :=
      splitArguments fuel style line (some (c :: taken.getD [])) false rest
    match style, s with
    | _, [] => put line (.ok [])
    | .marked mark, c :: rest =>
      if c == mark then
        (splitArguments fuel style (line + 1) none false rest).map
          ((line, String.ofList (taken.getD []).reverse) :: ·)
      else add c rest
    | _, '\n' :: rest =>
      let next := if behindBlank && style = .blanks then line else line + 1
      put line (splitArguments fuel style (if taken.isNone && !behindBlank then line else next) none
        false rest)
    | _, '\\' :: c :: rest => add c rest
    | _, quote :: rest =>
      if quote == '\x27' || quote == '\x22' then
        let inner := rest.takeWhile fun c => c != quote && c != '\n'
        if (rest.drop inner.length).head? = some quote then
          splitArguments fuel style line (some (inner.reverse ++ taken.getD [])) false
            (rest.drop (inner.length + 1))
        else
          let kind := if quote == '\x22' then "double" else "single"
          .error ("unmatched " ++ kind ++
            " quote; by default quotes are special to xargs unless " ++
            "you use the -0 option")
      else if quote == ' ' || quote == '\t' then
        match style, taken with
        | .lines, some _ => add quote rest
        | _, _ => put line (splitArguments fuel style line none true rest)
      else add quote rest

/-- A text in which each occurrence of another one is replaced. -/
def replacedAll (mark new text : String) : String :=
  if mark = "" then text else new.intercalate (text.splitOn mark)

/-- The groups of arguments that are handed on together: so many arguments, or those of so many
lines. -/
def argumentGroups (fuel : Nat) (most mostLines : Option Nat) (arguments : List PlacedArgument) :
    List (List String) :=
  match fuel, arguments with
  | 0, _ | _, [] => []
  | fuel + 1, first :: _ =>
    let count :=
      match most, mostLines with
      | some n, _ => n
      | none, some n => (arguments.takeWhile fun argument => argument.1 < first.1 + n).length
      | none, none => arguments.length
    let count := max 1 count
    (arguments.take count).map (·.2) ::
      argumentGroups fuel most mostLines (arguments.drop count)

/-- Carries out commands in order, up to one that must be the last; gives the status. -/
def runCommands (tools : Tools) (traces : Bool) (status : Nat) : List (List String) → Act Nat
  | [] => return status
  | words :: rest => do
    let name := words.headD ""
    if traces then say 2 (" ".intercalate words ++ "\n")
    let nothing ← Act.ask fun state => state.openStream (.toRead .nothing)
    match ← tools.start [(0, some nothing)] words with
    | .error error =>
      report (name ++ ": " ++ error.text)
      return startStatus error
    | .ok child =>
      match ← awaitProcess child with
      | .exited 0 => runCommands tools traces status rest
      | .exited 255 =>
        report (name ++ ": exited with status 255; aborting")
        return 124
      | .exited _ => runCommands tools traces 123 rest
      | .killed signal =>
        report (name ++ ": terminated by signal " ++ toString signal)
        return 125

/-- Carries out a program with arguments that are read from the input. -/
def xargs : Program := fun tools =>
  withOptions ⟨"0a:d:E:I:i::L:l::n:P:prs:tx", [("null", '0'), ("arg-file", 'a'), ("delimiter", 'd'),
    ("replace", 'i'), ("max-lines", 'l'), ("max-args", 'n'), ("max-procs", 'P'),
    ("no-run-if-empty", 'r'), ("max-chars", 's'), ("verbose", 't'), ("exit", 'x')], true⟩ 1
    fun options operands => do
      let replaced := options.reverse.find? fun option => option.1 == 'I' || option.1 == 'i'
      let mark? := replaced.map fun option => if option.2 = "" then "\x7b\x7d" else option.2
      let delimiter? := options.reverse.find? fun option => option.1 == 'd' || option.1 == '0'
      let style : ArgumentStyle :=
        match delimiter? with
        | some ('d', text) => .marked ((unescaped .extended text.toList).1.headD '\n')
        | some _ => .marked '\x00'
        | none => if mark?.isSome then .lines else .blanks
      let countOf (letters : List Char) : Option (Char × String) :=
        options.reverse.find? fun option => letters.contains option.1
      let wrong := (options.filter fun option => "nLP".toList.contains option.1).find? fun option =>
        (readNat? 10 option.2.toList).isNone
      match wrong with
      | some (letter, text) =>
        refuseUsage ("invalid number \x22" ++ text ++ "\x22 for -" ++ letter.toString ++
          " option") 1
      | none =>
        let text? ← readOperand ((lastValue? options 'a').getD "-")
        match text? with
        | .error error =>
          report ("Cannot open input file " ++ namedFile ((lastValue? options 'a').getD "-") ++
            ": " ++
            error.text)
          return 1
        | .ok text =>
          match splitArguments (text.length + 1) style 0 none false text.toList with
          | .error message =>
            report message
            return 1
          | .ok all =>
            let arguments : List PlacedArgument :=
              match lastValue? options 'E' with
              | some ending => all.takeWhile fun argument => argument.2 != ending
              | none => all
            let command := if operands.isEmpty then ["echo"] else operands
            let most := (lastValue? options 'n').bind fun text => readNat? 10 text.toList
            let mostLines := (countOf ['L', 'l']).map fun option =>
              (readNat? 10 option.2.toList).getD 1
            let commands :=
              match mark? with
              | some mark =>
                arguments.map fun argument => command.map (replacedAll mark argument.2)
              | none =>
                if arguments.isEmpty then
                  if hasOption options 'r' then [] else [command]
                else (argumentGroups arguments.length most mostLines arguments).map (command ++ ·)
            runCommands tools (hasOption options 't' || hasOption options 'p') 0 commands

end Runbook.Shell
