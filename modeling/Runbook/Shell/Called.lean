import Runbook.Shell.Builtin.Table
import Runbook.Shell.Utility.Basic

/-!
# Called commands

The words of a command name what is called: a function, a command of the shell, or a program that is
found along the search path. What cannot be called is told, with a status for the reason.
-/

namespace Runbook.Shell

/-- What a command turns out to be: its name and arguments, whether functions are passed over, the
search path for it, and whether its errors end the script. -/
structure Called where
  name : String
  arguments : List String
  skipsFunctions : Bool
  standardPath : Bool
  isSpecial : Bool

/-- The command behind those that only pass one on. -/
def calledCommand (fuel : Nat) (machine : Machine) (called : Called) : Called :=
  match fuel with
  | 0 => called
  | fuel + 1 =>
    let isFunction := !called.skipsFunctions && (machine.functions.lookup called.name).isSome
    let passesOn := called.name = "command" || (machine.isExtended && called.name = "builtin")
    if isFunction || !passesOn then called
    else
      match behindOptions called.standardPath called.arguments with
      | some (standardPath, name :: arguments) =>
        if called.name = "builtin" && !machine.isOwn name then called
        else calledCommand fuel machine ⟨name, arguments, true, standardPath, false⟩
      | _ => called
where
  behindOptions (standardPath : Bool) : List String → Option (Bool × List String)
    | "--" :: rest => some (standardPath, rest)
    | "-p" :: rest => behindOptions true rest
    | word :: rest =>
      if word.front == '-' && 1 < word.length then none else some (standardPath, word :: rest)
    | [] => none

/-- Tells that a program cannot be run; gives the status. -/
def refuseProgram (name : String) (error : DiskError) : Act Nat := do
  let machine ← get
  let isAbsent := error = .notFound || error = .notDirectory || error = .nameTooLong
  match machine.dialect with
  | .common =>
    complain (name ++ ": " ++ if error.meansAbsent then "not found" else error.text)
    return if isAbsent then 127 else 126
  | .extended =>
    complain (name ++ ": " ++ error.text)
    return if isAbsent && error != .notDirectory then 127 else 126

/-- Why a path cannot be run. -/
def runError (disk : Disk) (directory : Location) (dialect : Dialect) (path : String) : DiskError :=
  match disk.stat directory (diskPath path), dialect with
  | .error error, _ => error
  | .ok (_, .directory), .extended => .isDirectory
  | .ok _, _ => .denied

/-- Tells that a command is not found. -/
def tellAbsent (name : String) : Act Nat := do
  match (← get).dialect with
  | .common => complain (name ++ ": not found")
  | .extended => complain (name ++ ": command not found")
  return 127

/-- Finds the program of a command; tells if there is none. -/
def findCommand (name : String) (standardPath : Bool) : Act (Except Nat String) := do
  let machine ← get
  let disk ← theDisk
  let search := if standardPath then standardSearch else machine.search
  let isPath := name.toList.contains '/'
  match machine.searchFor disk search name with
  | .program path =>
    if !isPath then keepPath name path 1
    return .ok path
  | .refused path =>
    return .error (← refuseProgram (if isPath || !machine.isExtended then name else path)
      (runError disk machine.directory machine.dialect path))
  | .absent =>
    if isPath then
      return .error (← refuseProgram name (runError disk machine.directory machine.dialect name))
    else if search = "" && machine.isExtended then return .error (← refuseProgram name .notFound)
    else return .error (← tellAbsent name)

/-- Tells that this process cannot go on as a program; gives the status. -/
def refuseExec (name : String) (error : DiskError) : Act Nat := do
  match (← get).dialect with
  | .common => refuseProgram name error
  | .extended =>
    complainIn (name ++ ": " ++ if error = .notFound then "not found" else
      "cannot execute: " ++ error.text)
    return if error = .notFound then 127 else 126

/-- The search path of a program. -/
def programSearch (machine : Machine) : String := (machine.textOf? "PATH").getD "/bin:/usr/bin"

/-- The path and the text of a file that is run in this shell, or the status if there is none. -/
def fileToRun (name : String) : Act (Except Nat (String × String)) := do
  let machine ← get
  let disk ← theDisk
  let isPath := name.toList.contains '/'
  let fronts :=
    if isPath then []
    else searchFronts machine.search ++ if machine.isExtended then [""] else []
  let isFile (path : String) : Bool :=
    match disk.stat machine.directory (diskPath path) with
    | .ok (_, .file _ _) => true
    | _ => false
  let path? :=
    if isPath then some name else (fronts.map fun front => pathIn front name).find? isFile
  match path? with
  | none =>
    match machine.dialect with
    | .common => abandon 2 (name ++ ": not found")
    | .extended =>
      complain (name ++ ": No such file or directory")
      return .error 1
  | some path =>
    match ← readOperand (if path = "-" then "./-" else path) with
    | .ok text => return .ok (path, text)
    | .error error =>
      match machine.dialect with
      | .common => abandon 2 (openingText .common false path error)
      | .extended =>
        if error = .isDirectory then complainIn (name ++ ": is a directory")
        else complain (name ++ ": " ++ error.text)
        return .error 1

/-- Tells about names. What passes commands on has none to pass on here. -/
def tellNames (name : String) (arguments : List String) : Act Nat := do
  let machine ← get
  if name = "builtin" then
    match arguments with
    | [] => return 0
    | other :: _ =>
      complainIn (other ++ ": not a shell builtin")
      return 1
  else
    let (options, operands) ← optionsOf "pvV" arguments
    let search := if hasOption options 'p' then standardSearch else machine.search
    let tell? : Option (String → Act Nat) :=
      match options.reverse.find? fun option => option.1 == 'v' || option.1 == 'V' with
      | some ('v', _) => some (tellBriefly search)
      | some _ => some (tellFully search)
      | none => none
    match tell? with
    | some tell =>
      let statuses ← (if machine.isExtended then operands else operands.take 1).mapM tell
      match machine.dialect with
      | .common => return statuses.headD 0
      | .extended => return if statuses.any (· = 0) then 0 else 1
    | none => return 0

end Runbook.Shell
