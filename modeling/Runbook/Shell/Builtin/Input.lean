import Runbook.Shell.Builtin.Variables
import Runbook.Shell.Field

/-!
# Commands that read

A line is read into variables, and arguments are read as options one after another.
-/

namespace Runbook.Shell

/-- How far a line has been read: to its end, or not, or to a backslash. -/
inductive LineState where
  | done
  | more
  | backslash
  deriving DecidableEq, Repr

/-- The characters of a line that stand in some text, whether each was protected, how many were
taken, and how far the line has been read. -/
def scanLine (fuel : Nat) (mark : Char) (raw : Bool) (most : Option Nat) (s : List Char) :
    List Marked × Nat × LineState :=
  match fuel, s with
  | 0, _ | _, [] => ([], 0, .more)
  | fuel + 1, c :: rest =>
    if most = some 0 then ([], 0, .done)
    else if c == mark then ([], 1, .done)
    else if c == '\\' && !raw then
      match rest with
      | [] => ([], 1, .backslash)
      | d :: rest =>
        if d == '\n' then
          let (marked, n, state) := scanLine fuel mark raw most rest
          (marked, n + 2, state)
        else
          let (marked, n, state) := scanLine fuel mark raw (most.map (· - 1)) rest
          ((d, true) :: marked, n + 2, state)
    else
      let (marked, n, state) := scanLine fuel mark raw (most.map (· - 1)) rest
      if c == '\x00' then (marked, n + 1, state) else ((c, false) :: marked, n + 1, state)

/-- Reads a line in which backslashes may protect characters and join lines: its characters, whether
each was protected, and whether the end of the line was there. -/
def readMarked (fuel : Nat) (descriptor : Nat) (mark : Char) (raw : Bool) (most : Option Nat) :
    Act (List Marked × Bool) :=
  match fuel with
  | 0 => return ([], false)
  | fuel + 1 => do
    if most = some 0 then return ([], true)
    else
      match ← find descriptor with
      | .text octets =>
        let (marked, taken, state) := scanLine octets.length mark raw most octets
        take descriptor taken
        match state with
        | .done => return (marked, true)
        | .more =>
          let most := most.map (· - marked.length)
          let (rest, ended) ← readMarked fuel descriptor mark raw most
          return (marked ++ rest, ended)
        | .backslash =>
          match ← find descriptor with
          | .text (c :: _) =>
            take descriptor 1
            let most := most.map (· - marked.length - 1)
            let (rest, ended) ← readMarked fuel descriptor mark raw most
            return (marked ++ (if c == '\n' then rest else (c, true) :: rest), ended)
          | _ => return (marked, false)
      | _ => return ([], false)

/-- Gives variables the parts of a line. -/
def assignParts : List String → List String → Act Unit
  | [], _ => return ()
  | name :: names, parts => do
    let (list, key) := splitKey name
    if isVariableName name then
      let entry := (← get).entry name
      assignText name (← taken entry "" (parts.headD "") false)
      assignParts names (parts.drop 1)
    else if (← get).isExtended && isVariableName list && key.isSome then
      assignAt list (key.getD "") (parts.headD "")
      assignParts names (parts.drop 1)
    else
      match (← get).dialect with
      | .common => abandon 2 (name ++ ": bad variable name")
      | .extended =>
        complainIn ("\x60" ++ name ++ "': not a valid identifier")
        setStatus 1
        throw .fault

/-- Reads a line into variables. -/
def readVariables : Utility := fun arguments => do
  let machine ← get
  let known := if machine.isExtended then "rsea:d:n:N:p:t:u:i:" else "p:r"
  let (options, names) ← optionsOf known arguments
  let option? (letter : Char) : Option String := (options.reverse.lookup letter)
  let has (letter : Char) : Bool := options.any (·.1 == letter)
  let number? (letter : Char) : Option Nat :=
    (option? letter).bind fun text => readNat? 10 text.toList
  let descriptor := (number? 'u').getD 0
  let mark := ((option? 'd').map fun text => text.toList.headD '\x00').getD '\n'
  let most := (number? 'N').orElse fun _ => number? 'n'
  if names.isEmpty && !machine.isExtended then abandon 2 "arg count"
  else
    let (line, ended) ← readMarked 100000 descriptor mark (has 'r') most
    let status := if ended then 0 else 1
    let separators := if has 'N' then [] else machine.separators
    match option? 'a', names with
    | some list, _ =>
      let marks : List Mark := .region :: line.map fun (c, quoted) =>
        if quoted then .char c true else .found c
      let fields := (fieldsFrom separators none .no marks).map fun field =>
        String.ofList (field.map (·.1))
      let texts := (List.range fields.length).zip fields
      modify fun machine =>
        machine.putVariable (machine.nameOf list)
          { machine.entry list with content := some (.listed texts), awaited := false }
      return status
    | none, [] =>
      assignText "REPLY" (String.ofList (line.map (·.1)))
      return status
    | none, names =>
      assignParts names (lineParts separators names.length line)
      return status

/-- The lines of a text that end at a mark, each with the mark or without. -/
def linesUpTo (mark : Char) (drops : Bool) (text : String) : List String :=
  let pieces := text.splitOn mark.toString
  pieces.dropLast.map (fun line => if drops then line else line ++ mark.toString) ++
    (pieces.getLast?.filter (· != "")).toList

/-- Reads the lines of the input into a list, or into what there is of it from a number on. -/
def readIntoList : Utility := fun arguments => do
  let (options, names) ← optionsOf "d:n:O:s:tu:C:c:" arguments
  let name := (← get).nameOf (names.headD "MAPFILE")
  let drops := options.any (·.1 == 't')
  let number? (letter : Char) : Option Nat :=
    (options.lookup letter).bind fun text => readNat? 10 text.toList
  let mark := ((options.lookup 'd').map fun text => text.toList.headD '\x00').getD '\n'
  let text := (← readAll ((number? 'u').getD 0)).toOption.getD ""
  let lines := (linesUpTo mark drops text).drop ((number? 's').getD 0)
  let lines := (number? 'n').elim lines fun n => if n = 0 then lines else lines.take n
  let entry := (← get).bindings.get name
  let first := (number? 'O').getD 0
  let start : Content :=
    match number? 'O', entry.content with
    | some _, some (.listed texts) => .listed texts
    | _, _ => .listed []
  let content := (lines.zipIdx first).foldl
    (fun content (line, n) => Content.withNumber (some content) n line) start
  modify fun machine =>
    machine.putVariable name { entry with content := some content, awaited := false }
  return 0

/-- Whether a letter is an option in a list of letters, and whether it takes a value. -/
def optionLetter? (c : Char) : List Char → Option Bool
  | [] => none
  | d :: rest =>
    if d == c && c != ':' then some (rest.head? = some ':') else optionLetter? c rest

/-- Reads the next option from arguments. -/
def getOption : Utility := fun arguments => do
  match arguments with
  | letters :: name :: words =>
    let machine ← get
    let words := if words.isEmpty then machine.arguments else words
    let silent := letters.front == ':'
    let letters := if silent then letters.toList.drop 1 else letters.toList
    let index := max 1 machine.option
    let rest : List Char :=
      if machine.optionOffset = 0 then []
      else ((words[index - 2]?.getD "").toList).drop machine.optionOffset
    let finish (index offset : Nat) (found : String) (value : Option String) (status : Nat) :
        Act Nat := do
      match value with
      | some value => assignText "OPTARG" value
      | none => modify fun machine => machine.unset "OPTARG"
      modify fun machine =>
        { machine.setText "OPTIND" (toString index) with option := index, optionOffset := offset }
      if isVariableName name then assignText name found
      else
        let _ ← refuseName name name
      return status
    let ended (index : Nat) : Act Nat := do
      modify fun machine =>
        { machine.setText "OPTIND" (toString index) with option := index, optionOffset := 0 }
      assignText name "?"
      return 1
    let one (c : Char) (behind : List Char) (index offset : Nat) : Act Nat := do
      let offset := if behind.isEmpty then 0 else offset
      match optionLetter? c letters with
      | none =>
        if silent then finish index offset "?" (some c.toString) 0
        else
          tell machine ("Illegal option -" ++ c.toString) ("illegal option -- " ++ c.toString)
          finish index offset "?" none 0
      | some false =>
        finish index offset c.toString (if machine.isExtended then none else some "") 0
      | some true =>
        if !behind.isEmpty then finish index 0 c.toString (some (String.ofList behind)) 0
        else
          match words[index - 1]? with
          | some value => finish (index + 1) 0 c.toString (some value) 0
          | none =>
            if silent then finish index 0 ":" (some c.toString) 0
            else
              tell machine ("No arg for -" ++ c.toString ++ " option")
                ("option requires an argument -- " ++ c.toString)
              finish index 0 "?" none 0
    match rest with
    | c :: behind => one c behind index (machine.optionOffset + 1)
    | [] =>
      match words[index - 1]? with
      | none => ended index
      | some "--" => ended (index + 1)
      | some word =>
        match word.toList with
        | '-' :: c :: behind => one c behind (index + 1) 2
        | _ => ended index
  | _ =>
    match (← get).dialect with
    | .common => abandon 2 "Usage: getopts optstring var [arg...]"
    | .extended =>
      sayUsage
      return 2
where
  tell (machine : Machine) (common extended : String) : Act Unit := do
    match machine.dialect with
    | .common => say 2 (common ++ "\n")
    | .extended =>
      if machine.textOf? "OPTERR" != some "0" then
        say 2 (machine.name ++ ": " ++ extended ++ "\n")

end Runbook.Shell
