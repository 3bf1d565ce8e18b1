import Runbook.Shell.Builtin.Variables
import Runbook.Shell.Listing
import Runbook.Shell.Lookup

/-!
# Commands about names

What a name stands for is told, aliases are set, and the paths of programs are kept in mind.
-/

namespace Runbook.Shell

/-- Keeps in mind where a program was found, and that it was run from there so many times more. -/
def keepPath (name path : String) (uses : Nat) : Act Unit := modify fun machine =>
  if name.toList.contains '/' then machine
  else
    let kept := machine.hashed.lookup name
    let others := machine.hashed.filter (·.1 != name)
    { machine with hashed := others ++ [(name, ⟨path, (kept.elim 0 KeptPath.uses) + uses⟩)] }

/-- Tells briefly what a name stands for. -/
def tellBriefly (search name : String) : Act Nat := do
  let machine ← get
  match machine.meaningOf (← theDisk) search name with
  | .reserved | .function | .special | .own =>
    say 1 (name ++ "\n")
    return 0
  | .alias text =>
    say 1 ("alias " ++ name ++ "=" ++ singleQuoted text ++ "\n")
    return 0
  | .program path _ =>
    if !machine.isExtended then keepPath name path 0
    say 1 (path ++ "\n")
    return 0
  | .absent => return if machine.isExtended then 1 else 127

/-- What is told about a function, with its text in the extended language. -/
def tellFunction (name : String) : Act Unit := do
  let machine ← get
  match machine.dialect, machine.functions.lookup name with
  | .extended, some function =>
    say 1 (name ++ " is a function\n" ++ functionText machine.hereTexts name function.body)
  | _, _ => say 1 (name ++ " is a shell function\n")

/-- Tells at length what a name stands for. -/
def tellFully (search name : String) : Act Nat := do
  let machine ← get
  let line (text : String) : Act Nat := do
    say 1 (name ++ text ++ "\n")
    return 0
  match machine.meaningOf (← theDisk) search name with
  | .reserved => line " is a shell keyword"
  | .alias text =>
    line (if machine.isExtended then " is aliased to \x60" ++ text ++ "'"
      else " is an alias for " ++ text)
  | .function =>
    tellFunction name
    return 0
  | .special => line " is a special shell builtin"
  | .own => line " is a shell builtin"
  | .program path hashed =>
    if machine.isExtended then
      line (if hashed then " is hashed (" ++ path ++ ")" else " is " ++ path)
    else
      keepPath name path 0
      line ((if hashed then " is a tracked alias for " else " is ") ++ path)
  | .absent =>
    match machine.dialect with
    | .common =>
      say 1 (name ++ ": not found\n")
      return 127
    | .extended =>
      complainIn (name ++ ": not found")
      return 1

/-- The programs with a name, in the order of the search path. -/
def programsFor (search name : String) : Act (List String) := do
  let machine ← get
  let disk ← theDisk
  let isProgram (path : String) : Bool :=
    match disk.stat machine.directory (diskPath path) with
    | .ok (_, .file _ true) => true
    | _ => false
  let paths :=
    if name.toList.contains '/' then [name]
    else (searchFronts search).map fun front => pathIn front name
  return paths.filter isProgram

/-- Tells all that a name stands for, as words or at length. -/
def tellAll (search : String) (asWord : Bool) (name : String) : Act Nat := do
  let machine ← get
  let programs ← programsFor search name
  let isFunction := (machine.functions.lookup name).isSome
  let isReserved := machine.dialect.reserves name
  let isOwn := machine.isOwn name
  let tell (holds : Bool) (word text : String) : Act Unit := do
    if holds then say 1 (if asWord then word ++ "\n" else name ++ text ++ "\n")
  tell isReserved "keyword" " is a shell keyword"
  if isFunction then if asWord then say 1 "function\n" else tellFunction name
  tell isOwn "builtin" " is a shell builtin"
  for path in programs do tell true "file" (" is " ++ path)
  if isReserved || isFunction || isOwn || !programs.isEmpty then return 0
  else
    if !asWord then complainIn (name ++ ": not found")
    return 1

/-- Tells the kind of a name in a word. -/
def tellKind (name : String) : Act Nat := do
  let machine ← get
  let word? : Option String :=
    match machine.meaningOf (← theDisk) machine.search name with
    | .reserved => some "keyword"
    | .alias _ => some "alias"
    | .function => some "function"
    | .special | .own => some "builtin"
    | .program _ _ => some "file"
    | .absent => none
  match word? with
  | some word =>
    say 1 (word ++ "\n")
    return 0
  | none => return 1

/-- Tells the path of a program. -/
def tellPath (always : Bool) (name : String) : Act Nat := do
  let machine ← get
  let meaning := machine.meaningOf (← theDisk) machine.search name
  match meaning, machine.searchFor (← theDisk) machine.search name with
  | .program path _, _ =>
    say 1 (path ++ "\n")
    return 0
  | .absent, _ => return 1
  | _, .program path =>
    if always then say 1 (path ++ "\n")
    return 0
  | _, _ => return if always then 1 else 0

/-- Tells what names stand for. -/
def typeCommand : Utility := fun arguments => do
  let machine ← get
  match machine.dialect with
  | .common =>
    let (_, operands) ← optionsOf "" arguments
    forOperands (tellFully machine.search) operands
  | .extended =>
    let (options, operands) ← optionsOf "afptP" arguments
    let has (letter : Char) : Bool := options.any (·.1 == letter)
    let statuses ← operands.mapM fun name =>
      if has 'a' && !has 'p' && !has 'P' then tellAll machine.search (has 't') name
      else if has 't' then tellKind name
      else if has 'P' then tellPath true name
      else if has 'p' then tellPath false name
      else tellFully machine.search name
    return if statuses.all (· = 0) then 0 else 1

/-- The name and the text of an operand that sets an alias. -/
def aliasOperand? (operand : String) : Option (String × String) :=
  let name := operand.toList.takeWhile (· != '=')
  if name.length = operand.length || name.isEmpty then none
  else some (String.ofList name, String.ofList (operand.toList.drop (name.length + 1)))

/-- An alias as it is listed. -/
def aliasLine (dialect : Dialect) (name text : String) : String :=
  match dialect with
  | .common => name ++ "=" ++ singleQuoted text ++ "\n"
  | .extended => "alias " ++ name ++ "=" ++ reusable text ++ "\n"

/-- Sets aliases, or lists them. -/
def aliasCommand : Utility := fun arguments => do
  let machine ← get
  let (_, operands) ←
    if machine.isExtended then optionsOf "p" arguments else pure ([], arguments)
  if operands.isEmpty then
    let entries :=
      match machine.dialect with
      | .common => inTableOrder variableRows machine.aliases
      | .extended => machine.aliases.mergeSort fun a b => a.1 ≤ b.1
    say 1 (String.join (entries.map fun entry => aliasLine machine.dialect entry.1 entry.2))
    return 0
  else
    forOperands (fun operand => do
      let machine ← get
      match aliasOperand? operand with
      | some (name, text) =>
        set { machine with aliases := replaceKey name text machine.aliases }
        return 0
      | none =>
        match machine.aliases.lookup operand with
        | some text =>
          say 1 (aliasLine machine.dialect operand text)
          return 0
        | none =>
          match machine.dialect with
          | .common => say 2 ("alias: " ++ operand ++ " not found\n")
          | .extended => complainIn (operand ++ ": not found")
          return 1) operands

/-- Forgets aliases. -/
def unaliasCommand : Utility := fun arguments => do
  let machine ← get
  let (options, operands) ← optionsOf "a" arguments
  if options.any (·.1 == 'a') then
    set { machine with aliases := [] }
    return 0
  else
    forOperands (fun name => do
      let machine ← get
      if (machine.aliases.lookup name).isSome then
        set { machine with aliases := machine.aliases.filter (·.1 != name) }
        return 0
      else
        match machine.dialect with
        | .common => say 2 ("unalias: " ++ name ++ " not found\n")
        | .extended => complainIn (name ++ ": not found")
        return 1) operands

/-- The names of all commands that a shell carries out itself. -/
def ownNames (machine : Machine) : List String :=
  let names := specialCommands ++ regularCommands.filter (· != "chdir") ++ extendedCommands
  (names.filter fun name => !machine.disabled.contains name).mergeSort

/-- Switches commands of the shell off and on, or lists them. -/
def enableCommand : Utility := fun arguments => do
  let machine ← get
  let (options, operands) ← optionsOf "adnpsf:" arguments
  let has (letter : Char) : Bool := options.any (·.1 == letter)
  let line (name : String) : String :=
    "enable " ++ (if machine.disabled.contains name then "-n " else "") ++ name ++ "\n"
  if operands.isEmpty then
    let off := machine.disabled.mergeSort
    let names :=
      if has 'n' then off
      else if has 'a' then (ownNames machine ++ off).mergeSort
      else ownNames machine
    say 1 (String.join (names.map line))
    return 0
  else
    forOperands (fun name => do
      let machine ← get
      let others := machine.disabled.filter (· != name)
      let known := { machine with disabled := others }
      if !known.isOwn name then
        complainIn (name ++ ": not a shell builtin")
        return 1
      else
        set { machine with disabled := if has 'n' then name :: others else others }
        return 0) operands

/-- Tells the words that may complete a text. -/
def completionsCommand : Utility := fun arguments => do
  let machine ← get
  let (options, operands) ← optionsOf "abcdefgjksuvA:C:F:G:P:S:W:X:o:" arguments
  let has (letter : Char) : Bool := options.any (·.1 == letter)
  let kinds := (options.filter (·.1 == 'A')).map (·.2)
  let words (text : String) : List String :=
    let isSeparator (c : Char) : Bool := machine.separators.contains c
    ((text.toList.splitBy fun a b => isSeparator a == isSeparator b).filter fun run =>
      !run.any isSeparator).map String.ofList
  let found :=
    (if has 'a' || kinds.contains "alias" then (machine.aliases.map (·.1)).mergeSort else []) ++
    (if has 'b' || kinds.contains "builtin" then ownNames machine else []) ++
    (if kinds.contains "function" then machine.functionsByName.map (·.1) else []) ++
    (if has 'v' || kinds.contains "variable" then (machine.bindings.map (·.1)).mergeSort else []) ++
    ((options.filter (·.1 == 'W')).map fun option => words option.2).flatten
  let shown := found.filter fun word => word.startsWith (operands.headD "")
  say 1 (String.join (shown.map (· ++ "\n")))
  return if shown.isEmpty then 1 else 0

/-- The number of rows of the table of programs in the extended language. -/
def programRows : Nat := 256

/-- Lists where programs are. -/
def listPaths (asCommands : Bool) : Act Unit := do
  let machine ← get
  match machine.dialect with
  | .common =>
    say 1 (String.join ((inTableOrder commandRows machine.hashed).map fun entry =>
      entry.2.path ++ "\n"))
  | .extended =>
    if machine.hashed.isEmpty then say 1 "hash: hash table empty\n"
    else
      let entries := machine.hashed.mergeSort fun a b =>
        keyRow programRows a.1 ≤ keyRow programRows b.1
      let line (entry : String × KeptPath) : String :=
        if asCommands then "builtin hash -p " ++ entry.2.path ++ " " ++ entry.1 ++ "\n"
        else String.ofList (padLeft 4 ' ' (decimalDigits entry.2.uses)) ++ "\t" ++
          entry.2.path ++ "\n"
      say 1 ((if asCommands then "" else "hits\tcommand\n") ++ String.join (entries.map line))

/-- Keeps in mind where programs are, forgets that, or lists it. -/
def hashCommand : Utility := fun arguments => do
  let known := if (← get).isExtended then "lrp:dt" else "r"
  let (options, operands) ← optionsOf known arguments
  let has (letter : Char) : Bool := options.any (·.1 == letter)
  let refuse (name : String) : Act Nat := do
    complainIn (name ++ ": not found")
    return 1
  if has 'r' then modify fun machine => { machine with hashed := [] }
  if operands.isEmpty then
    if !has 'r' then listPaths (has 'l')
    return 0
  else
    forOperands (fun name => do
      let machine ← get
      let kept := machine.hashed.lookup name
      match options.lookup 'p', has 't' || has 'd', kept with
      | some path, _, _ =>
        set { machine with hashed := machine.hashed.filter (·.1 != name) }
        keepPath name path 0
        return 0
      | none, true, none => refuse name
      | none, true, some kept =>
        if has 'd' then set { machine with hashed := machine.hashed.filter (·.1 != name) }
        else say 1 ((if 1 < operands.length then name ++ "\t" else "") ++ kept.path ++ "\n")
        return 0
      | none, false, _ =>
        if machine.isOwn name || (machine.functions.lookup name).isSome then return 0
        else
          match machine.searchFor (← theDisk) machine.search name with
          | .program path =>
            set { machine with hashed := machine.hashed.filter (·.1 != name) }
            keepPath name path 0
            return 0
          | _ => refuse name) operands

end Runbook.Shell
