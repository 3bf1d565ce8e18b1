import Runbook.Shell.Builtin.Options
import Runbook.Shell.Builtin.Table

/-!
# Startup

A shell starts with options, variables from its environment, and variables of its own.
-/

namespace Runbook.Shell

/-- The machine of a program that takes the place of this one. -/
def Machine.asProgram (machine : Machine) (name : String) : Machine :=
  { machine with
    dialect := .extended, name, command := none, options := [], settings := [], functions := []
    callers := [], file := none
    bindings := machine.environment.map fun (name, text) =>
      (name, { Variable.ofText text with exported := true }) }

/-- The name of a function that a variable of the environment gives. -/
def givenName? (name : String) : Option String :=
  if name.startsWith givenFront && name.endsWith givenBack then
    some (String.ofList ((name.toList.drop givenFront.length).take
      (name.length - givenFront.length - givenBack.length)))
  else none

/-- The machine of a shell that has just started. Only what has the name of a variable becomes
one. -/
def Machine.asShell (machine : Machine) (dialect : Dialect) (name : String)
    (arguments : List String) : Machine :=
  let given : Bindings :=
    (machine.asProgram name).bindings.filter fun entry => isVariableName entry.1
  let level := ((given.get "SHLVL").content.bind (·.text?)).bind (·.toNat?)
  let start : Machine :=
    { machine with
      dialect, name, arguments, root := machine.process, option := 1, optionOffset := 0
      otherPaths := [], bindings := given, frames := [], functions := [], aliases := []
      hashed := []
      disabled := [], hereTexts := #[], status := 0, substituted := none, parts := [], line := 1
      functionLine := none, callers := [], file := none, input := none, command := none, shown := ""
      loops := 0, level := 0, depth := 0, skip := none
      options := if dialect = .extended then ['h', 'B', '\x04'] else []
      settings := if dialect = .extended then standardSettings else []
      traps := [], trapStatus := none, trapped := [], outerTraps := [], tracing := false, jobs := []
      lastJob := none, lastArgument := name, outputFailed := false, passing := [] }
  let put (machine : Machine) (name text : String) (exported : Bool) : Machine :=
    machine.putVariable name { Variable.ofText text with exported }
  let start := put start "IFS" standardSeparators false
  let start := put start "OPTIND" "1" false
  let start := put start "PS4" "+ " false
  let start := put start "PWD" machine.path true
  match dialect with
  | .common =>
    let start := put start "PS1" "# " false
    let start := put start "PS2" "> " false
    if (given.lookup "PATH").isSome then start else put start "PATH" standardSearch false
  | .extended =>
    let start := put start "SHLVL" (toString (level.getD 0 + 1)) true
    let start := put start "BASH_VERSION" "5.2.15(1)-release" false
    let start := start.putVariable "BASH_VERSINFO"
      { content := some (.listed (["5", "2", "15", "1", "release", "x86_64-pc-linux-gnu"].zipIdx.map
          fun (text, n) => (n, text)))
        readOnly := true }
    let start := put start "OSTYPE" "linux-gnu" false
    let start := put start "HOSTTYPE" "x86_64" false
    let start := put start "MACHTYPE" "x86_64-pc-linux-gnu" false
    let path := if name.toList.contains '/' then name else "/usr/bin/" ++ name
    let start := put start "BASH" path false
    let start := put start "OPTERR" "1" false
    let start := put start "_" "/usr/bin/bash" true
    let start :=
      if (given.lookup "OLDPWD").isSome then start
      else start.putVariable "OLDPWD" { exported := true }
    if (given.lookup "PATH").isSome then start
    else put start "PATH" "/usr/local/sbin:/usr/local/bin:/usr/sbin:/usr/bin:/sbin:/bin:." false

/-- How a shell was asked to start: options, whether the text is the next argument, and the rest. -/
structure ShellStart where
  options : List Char
  isText : Bool
  isInput : Bool
  rest : List String

/-- Reads the arguments of a shell. -/
def readStart (fuel : Nat) (dialect : Dialect) (start : ShellStart) : Except String ShellStart :=
  match fuel with
  | 0 => .ok start
  | fuel + 1 =>
    match start.rest with
    | "-" :: rest | "--" :: rest => .ok { start with rest }
    | word :: rest =>
      match word.toList with
      | sign :: letter :: letters =>
        if sign != '-' && sign != '+' then .ok start
        else if letter == '-' then
          if ["norc", "noprofile", "posix", "login"].contains (String.ofList letters) then
            readStart fuel dialect { start with rest }
          else .error (String.ofList (sign :: letter :: letters) ++ ": invalid option")
        else
          (readLetters sign (letter :: letters) { start with rest }).bind
            (readStart fuel dialect)
      | _ => .ok start
    | [] => .ok start
where
  readLetters (sign : Char) : List Char → ShellStart → Except String ShellStart
    | [], start => .ok start
    | letter :: letters, start =>
      let known := (optionsIn dialect).any fun entry => entry.2 = some letter && letter.isAlpha
      if letter == 'c' then readLetters sign letters { start with isText := true }
      else if letter == 's' then readLetters sign letters { start with isInput := true }
      else if letter == 'l' || letter == 'i' then readLetters sign letters start
      else if letter == 'o' then
        match start.rest with
        | name :: rest =>
          match (optionsIn dialect).lookup name with
          | some (some option) =>
            readLetters sign letters { start with rest, options := set sign option start.options }
          | _ =>
            .error (match dialect with
              | .common => "Illegal option " ++ sign.toString ++ "o " ++ name
              | .extended => name ++ ": invalid option name")
        | [] => .ok start
      else if known then
        readLetters sign letters { start with options := set sign letter start.options }
      else
        .error (match dialect with
          | .common => "Illegal option -" ++ letter.toString
          | .extended => sign.toString ++ letter.toString ++ ": invalid option")
  set (sign letter : Char) (options : List Char) : List Char :=
    let others := options.filter (· != letter)
    if sign == '-' then letter :: others else others

end Runbook.Shell
