import Runbook.Shell.Builtin.Variables

/-!
# Commands for the present directory

The present directory is known by its place and by the path that led to it.
-/

namespace Runbook.Shell

/-- Keeps in mind a new directory, and the one before. -/
def moveTo (place : Location) : Act Unit := do
  let before := (← get).path
  let path := Text.encode (Path.ofLocation place).text
  modify fun machine => { machine with directory := place, path }
  assignText "OLDPWD" before
  assignText "PWD" path
  modify fun machine =>
    let exported (machine : Machine) (name : String) : Machine :=
      machine.putVariable name { machine.bindings.get name with exported := true }
    exported (exported machine "OLDPWD") "PWD"

/-- The place of a directory. -/
def directoryAt (path : String) : Act (Except DiskError Location) := do
  let machine ← get
  match (← theDisk).stat machine.directory (diskPath path) with
  | .ok (place, .directory) => return .ok place
  | .ok _ => return .error .notDirectory
  | .error error => return .error error

/-- The directory that the search for directories finds, if there is one. -/
def searchedDirectory (path : String) : List String → Act (Option Location)
  | [] => return none
  | front :: fronts => do
    match ← directoryAt (front ++ "/" ++ path) with
    | .ok place => return some place
    | .error _ => searchedDirectory path fronts

/-- Changes the present directory. -/
def changeDirectory : Utility := fun arguments => do
  let machine ← get
  let known := if machine.isExtended then "LPe@" else "LP"
  let (_, operands) ← optionsOf known arguments
  if machine.isExtended && 1 < operands.length then
    complainIn "too many arguments"
    return 1
  else
    let isBack := operands.head? = some "-"
    let target? : Option String :=
      match operands with
      | "-" :: _ => machine.textOf? "OLDPWD"
      | path :: _ => some path
      | [] => machine.textOf? "HOME"
    match target?, machine.dialect with
    | none, .extended =>
      complainIn (if isBack then "OLDPWD not set" else "HOME not set")
      return 1
    | target?, _ =>
      let target := target?.getD ""
      let path := if target = "" then "." else target
      let isPlain := ["", ".", ".."].contains ((path.splitOn "/").headD "")
      let fronts := if isPlain then [] else (machine.textOf "CDPATH").splitOn ":"
      match ← searchedDirectory path (fronts.filter (· != "")), ← directoryAt path with
      | some place, _ =>
        moveTo place
        say 1 ((← get).path ++ "\n")
        return 0
      | none, .ok place =>
        moveTo place
        if isBack then say 1 ((← get).path ++ "\n")
        return 0
      | none, .error error =>
        match machine.dialect with
        | .common => abandon 2 ("can't cd to " ++ path)
        | .extended =>
          complainIn (target ++ ": " ++ error.text)
          return 1

/-- A path with a tilde for the home directory in front of it. -/
def Machine.shortened (machine : Machine) (path : String) : String :=
  match machine.textOf? "HOME" with
  | some home =>
    let rest := path.toList.drop home.length
    if home != "" && home != "/" && path.startsWith home &&
        (rest.isEmpty || rest.head? = some '/') then
      "~" ++ String.ofList rest
    else path
  | none => path

/-- The present directory and those that are kept for later. -/
def Machine.directories (machine : Machine) : List String := machine.path :: machine.otherPaths

/-- What an operand of a command for kept directories names: a place from the front or the back. -/
def keptPlace? (count : Nat) (text : String) : Option (Option Nat) :=
  let digits := text.toList.drop 1
  match text.toList.head?, readNat? 10 digits with
  | some '+', some n => some (if n < count then some n else none)
  | some '-', some n => some (if n < count then some (count - 1 - n) else none)
  | _, _ => none

/-- Writes the kept directories in a line. -/
def tellDirectories : Act Nat := do
  let machine ← get
  say 1 (" ".intercalate (machine.directories.map machine.shortened) ++ "\n")
  return 0

/-- Refuses a place that no kept directory has. -/
def refusePlace (operand : String) : Act Nat := do
  if (← get).otherPaths.isEmpty then complainIn "directory stack empty"
  else complainIn (operand ++ ": directory stack index out of range")
  return 1

/-- Refuses an operand of a command for kept directories. -/
def refuseOperand (operand reason : String) : Act Nat := do
  complainIn (operand ++ ": " ++ reason)
  sayUsage
  return 2

/-- Goes to the first of some directories and keeps the others. -/
def goTo (directories : List String) : Act Nat := do
  match directories with
  | [] => return 1
  | path :: others =>
    match ← directoryAt path with
    | .ok place =>
      moveTo place
      modify fun machine => { machine with otherPaths := others }
      tellDirectories
    | .error error =>
      complainIn (path ++ ": " ++ error.text)
      return 1

/-- Keeps the present directory and goes to another one, or to one of those that are kept. -/
def pushDirectory : Utility := fun arguments => do
  let machine ← get
  let stays := arguments.head? = some "-n"
  let operands := if stays then arguments.drop 1 else arguments
  let operands := if operands.head? = some "--" then operands.drop 1 else operands
  match operands, machine.otherPaths with
  | [], [] =>
    complainIn "no other directory"
    return 1
  | [], first :: others => if stays then return 0 else goTo (first :: machine.path :: others)
  | [operand], others =>
    match keptPlace? machine.directories.length operand with
    | some (some n) =>
      let turned := machine.directories.drop n ++ machine.directories.take n
      if stays then
        set { machine with otherPaths := turned.drop 1 }
        return 0
      else goTo turned
    | some none => refusePlace operand
    | none =>
      if operand.front == '-' && 1 < operand.length then refuseOperand operand "invalid number"
      else if stays then
        set { machine with otherPaths := operand :: others }
        tellDirectories
      else goTo (operand :: machine.directories)
  | _, _ =>
    complainIn "too many arguments"
    return 1

/-- Forgets a kept directory, or goes back to the last one. -/
def popDirectory : Utility := fun arguments => do
  let machine ← get
  let stays := arguments.head? = some "-n"
  let operands := if stays then arguments.drop 1 else arguments
  let drop (n : Nat) : Act Nat := do
    if n = 0 && !stays then goTo machine.otherPaths
    else
      set { machine with otherPaths := machine.otherPaths.eraseIdx (n - 1) }
      tellDirectories
  if machine.otherPaths.isEmpty then refusePlace ""
  else
    match operands with
    | [] => drop 0
    | operand :: _ =>
      match keptPlace? machine.directories.length operand with
      | some (some n) => drop n
      | some none => refusePlace operand
      | none =>
        refuseOperand operand
          (if operand.front == '-' then "invalid number" else "invalid argument")

/-- Tells or forgets the kept directories. -/
def listDirectories : Utility := fun arguments => do
  let machine ← get
  let count := machine.directories.length
  let isChoice (word : String) : Bool := (keptPlace? count word).isSome
  let letters := ((arguments.filter fun word => word.front == '-' && !isChoice word).map fun word =>
    word.toList.drop 1).flatten
  let odd := arguments.find? fun word =>
    !isChoice word && (word.front != '-' || !(word.toList.drop 1).all "clpv".toList.contains)
  let has (letter : Char) : Bool := letters.contains letter
  let shown (path : String) : String := if has 'l' then path else machine.shortened path
  match odd, arguments.find? isChoice with
  | some word, _ => refuseOperand word "invalid number"
  | none, some word =>
    match (keptPlace? count word).join with
    | some n =>
      say 1 (shown (machine.directories[n]?.getD "") ++ "\n")
      return 0
    | none => refusePlace word
  | none, none =>
    if has 'c' then set { machine with otherPaths := [] }
    else if has 'v' then
      say 1 (String.join (machine.directories.zipIdx.map fun (path, n) =>
        String.ofList (padLeft 2 ' ' (decimalDigits n)) ++ "  " ++ shown path ++ "\n"))
    else if has 'p' then
      say 1 (String.join (machine.directories.map fun path => shown path ++ "\n"))
    else say 1 (" ".intercalate (machine.directories.map shown) ++ "\n")
    return 0

/-- Tells the present directory. -/
def tellDirectory : Utility := fun arguments => do
  let _ ← optionsOf "LP" arguments
  say 1 ((← get).path ++ "\n")
  return 0

/-- The letters of three bits of a mode. -/
def modeLetters (n : Nat) : String :=
  (if n / 4 % 2 = 1 then "r" else "") ++ (if n / 2 % 2 = 1 then "w" else "") ++
    if n % 2 = 1 then "x" else ""

/-- The bits that letters of a mode name, for the owner, the group and all others. -/
def modeBits (letters : List Char) : Nat :=
  (if letters.contains 'r' then 4 else 0) + (if letters.contains 'w' then 2 else 0) +
    if letters.contains 'x' then 1 else 0

/-- A mode as changed by a clause such as `u+x`; nothing if the clause is none. -/
def changedMode? (mode : Nat) (clause : List Char) : Option Nat :=
  let who := clause.takeWhile "ugoa".toList.contains
  let rest := clause.drop who.length
  match rest with
  | sign :: letters =>
    if !"+-=".toList.contains sign || !letters.all "rwxXst".toList.contains then none
    else
      let isFor (c : Char) : Bool := who.isEmpty || who.contains c || who.contains 'a'
      let bits := modeBits letters
      let one (c : Char) (unit : Nat) : Nat :=
        let old := mode / unit % 8
        let new :=
          if !isFor c then old
          else if sign == '+' then old ||| bits
          else if sign == '-' then old &&& (7 - bits) else bits
        new * unit
      some (one 'u' 64 + one 'g' 8 + one 'o' 1)
  | [] => none

/-- A mode as a text of clauses or digits changes it. -/
def modeFrom? (mode : Nat) (text : String) : Option Nat :=
  match text.toList with
  | c :: _ =>
    if c.isDigit then readNat? 8 text.toList
    else
      (text.splitOn ",").foldl
        (fun mode clause => mode.bind fun mode => changedMode? mode clause.toList) (some mode)
  | [] => none

/-- Tells or sets what new files are not allowed. -/
def maskCommand : Utility := fun arguments => do
  let machine ← get
  let (options, operands) ← optionsOf (if machine.isExtended then "Sp" else "S") arguments
  match operands with
  | [] =>
    let allowed := 511 - machine.mask % 512
    if options.isEmpty then
      say 1 (zeroPadded 4 ((readNat? 10 (Nat.toDigits 8 machine.mask)).getD 0) ++ "\n")
    else
      say 1 ("u=" ++ modeLetters (allowed / 64 % 8) ++ ",g=" ++ modeLetters (allowed / 8 % 8) ++
        ",o=" ++
        modeLetters (allowed % 8) ++ "\n")
    return 0
  | text :: _ =>
    let isNumber := text.front.isDigit
    let mask? := if isNumber then readNat? 8 text.toList else
      (modeFrom? (511 - machine.mask % 512) text).map (511 - ·)
    match mask? with
    | some mask =>
      set { machine with mask := mask % 512 }
      return 0
    | none =>
      match machine.dialect, isNumber with
      | .common, true => abandon 2 ("Illegal number: " ++ text)
      | .common, false => abandon 2 ("Illegal mode: " ++ text)
      | .extended, true =>
        complainIn (text ++ ": octal number out of range")
        return 1
      | .extended, false =>
        complainIn ("\x60" ++ text ++ "': invalid symbolic mode operator")
        return 1

end Runbook.Shell
