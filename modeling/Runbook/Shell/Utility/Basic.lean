import Runbook.Shell.Child

/-!
# Programs

A program takes its arguments and gives a status. Options may stand among the operands, and have
long names too. A program may carry out other ones.
-/

namespace Runbook.Shell

/-- What programs use to carry out other ones: the first word names the program. It runs in a
process of its own, in which some descriptors lead elsewhere, or in place of the one that asks; then
only a failure comes back. -/
structure Tools where
  start : List (Nat × Option Nat) → List String → Act (Except DiskError Nat)
  become : List String → Act DiskError

/-- What a program does with its arguments. -/
abbrev Program := Tools → Utility

/-- How the options of a program are named: their letters, with a colon behind those that take a
value and two behind those that may; long names for some of them; and whether they end at the first
operand. -/
structure OptionNames where
  letters : String
  long : List (String × Char)
  stops : Bool

/-- What may follow a letter. -/
inductive OptionValue where
  | unknown
  | none
  | needed
  | possible
  deriving DecidableEq, Repr

/-- What may follow a letter among the known ones. -/
def optionValue (letter : Char) : List Char → OptionValue
  | [] => .unknown
  | c :: rest =>
    if c == letter && c != ':' then
      match rest with
      | ':' :: ':' :: _ => .possible
      | ':' :: _ => .needed
      | _ => .none
    else optionValue letter rest

/-- The options of arguments with their values, and the operands. -/
abbrev Parsed := List (Char × String) × List String

/-- Reads the letters of one argument; gives the options and whether the last one needs the next
argument as its value. -/
def optionLetters (known : List Char) :
    List Char → Except String (List (Char × String) × Option Char)
  | [] => .ok ([], none)
  | letter :: rest =>
    match optionValue letter known with
    | .unknown => .error ("invalid option -- '" ++ letter.toString ++ "'")
    | .none => (optionLetters known rest).map fun (more, last) => ((letter, "") :: more, last)
    | .needed =>
      if rest.isEmpty then .ok ([], some letter) else .ok ([(letter, String.ofList rest)], none)
    | .possible => .ok ([(letter, String.ofList rest)], none)

/-- The option with a long name or the only one that its start names. -/
def longOption (names : OptionNames) (name : String) : Except String Char :=
  match names.long.lookup name with
  | some letter => .ok letter
  | none =>
    match (names.long.filter fun entry => entry.1.startsWith name).map (·.2) with
    | [] => .error ("unrecognized option '--" ++ name ++ "'")
    | letter :: others =>
      if others.all (· == letter) then .ok letter
      else
        .error ("option '--" ++ name ++ "' is ambiguous; possibilities:" ++
          String.join ((names.long.filter fun entry => entry.1.startsWith name).map fun entry =>
            " '--" ++ entry.1 ++ "'"))

/-- Reads arguments. -/
def parseArguments (fuel : Nat) (names : OptionNames) (arguments : List String) :
    Except String Parsed :=
  match fuel, arguments with
  | 0, _ | _, [] => .ok ([], [])
  | _, "--" :: operands => .ok ([], operands)
  | fuel + 1, argument :: rest =>
    let add (more : List (Char × String)) (parsed : Parsed) : Parsed := (more ++ parsed.1, parsed.2)
    match argument.toList with
    | '-' :: '-' :: name =>
      let front := name.takeWhile (· != '=')
      let value? : Option String :=
        if front.length < name.length then some (String.ofList (name.drop (front.length + 1)))
        else none
      let shown := "'--" ++ String.ofList front ++ "'"
      match longOption names (String.ofList front) with
      | .error message => .error message
      | .ok letter =>
        match optionValue letter names.letters.toList, value?, rest with
        | .needed, some value, _ | .possible, some value, _ =>
          (parseArguments fuel names rest).map (add [(letter, value)])
        | .needed, none, value :: rest =>
          (parseArguments fuel names rest).map (add [(letter, value)])
        | .needed, none, [] => .error ("option " ++ shown ++ " requires an argument")
        | .possible, none, _ => (parseArguments fuel names rest).map (add [(letter, "")])
        | _, some _, _ => .error ("option " ++ shown ++ " doesn't allow an argument")
        | _, none, _ => (parseArguments fuel names rest).map (add [(letter, "")])
    | '-' :: letter :: letters =>
      match optionLetters names.letters.toList (letter :: letters) with
      | .error message => .error message
      | .ok (options, none) => (parseArguments fuel names rest).map (add options)
      | .ok (options, some last) =>
        match rest with
        | value :: rest => (parseArguments fuel names rest).map (add (options ++ [(last, value)]))
        | [] => .error ("option requires an argument -- '" ++ last.toString ++ "'")
    | _ =>
      if names.stops then .ok ([], argument :: rest)
      else (parseArguments fuel names rest).map fun parsed => (parsed.1, argument :: parsed.2)

/-- The value of the last option of a letter. -/
def lastValue? (options : List (Char × String)) (letter : Char) : Option String :=
  options.reverse.lookup letter

/-- Writes a message of the program; its words may hold marks beyond octets. -/
def report (text : String) : Act Unit := do complainAs (← get).name (Text.withOctets text)

/-- Refuses the use of the program. -/
def refuseUsage (message : String) (status : Nat) : Act Nat := do
  let name := (← get).name
  report (message ++ "\nTry '" ++ name ++ " --help' for more information.")
  return status

/-- A program with options. -/
def withOptions (names : OptionNames) (wrongUse : Nat)
    (run : List (Char × String) → List String → Act Nat) : Utility := fun arguments => do
  match parseArguments (arguments.length + 1) names arguments with
  | .error message => refuseUsage message wrongUse
  | .ok (options, operands) => run options operands

/-- Whether an option is among others. -/
def hasOption (options : List (Char × String)) (letter : Char) : Bool :=
  options.any fun option => option.1 == letter

/-- Does something for operands, of which there must be one. -/
def needing (missing : String) (run : List String → Act Nat) (operands : List String) :
    Act Nat := do
  if operands.isEmpty then refuseUsage ("missing " ++ missing) 1 else run operands

/-- What stands where a text leads to from the present directory. -/
def entryAt (text : String) : Act (Except DiskError (Location × DiskEntry)) := do
  return (← theDisk).stat (← get).directory (diskPath text)

/-- Tries to change the disk; a failure is reported. -/
def changing (change : Disk → Except DiskError Disk) (reported : DiskError → String) : Act Nat := do
  match ← changeDisk change with
  | none => return 0
  | some error =>
    report (reported error)
    return 1

/-- The descriptor under which a program opens a file. -/
def fileDescriptor : Nat := 2000

/-- Opens a file or a device, does something with its descriptor, and closes it. A dash stands for the
input, which stays open. -/
def withOperand {α : Type} (operand : String) (act : Nat → Act α) : Act (Except DiskError α) := do
  if operand = "-" then return .ok (← act 0)
  else
    match ← openPath operand .read with
    | .error error => return .error error
    | .ok stream =>
      connect fileDescriptor (some stream)
      let result ← act fileDescriptor
      connect fileDescriptor none
      return .ok result

/-- The text of a file, of a device, or of the input, which a dash stands for. -/
def readOperand (operand : String) : Act (Except DiskError String) := do
  return (← withOperand operand readAll).bind id

/-- Does something with the text of each operand, or of the input. Operands that cannot be read are
reported in the words given. -/
def forTexts (operands : List String) (refusal : String → DiskError → String)
    (act : String → String → Act Nat) : Act Nat :=
  let operands := if operands.isEmpty then ["-"] else operands
  forOperands (fun operand => do
    match ← readOperand operand with
    | .ok text => act operand text
    | .error error =>
      report (refusal operand error)
      return 1) operands

/-- The lines of a text, each with its end if that is there. -/
def endedLines (text : String) : List String :=
  let pieces := text.splitOn "\n"
  pieces.dropLast.map (· ++ "\n") ++ (pieces.getLast?.filter (· != "")).toList

/-- The lines of a text without their ends. -/
def plainLines (text : String) : List String :=
  let pieces := text.splitOn "\n"
  if pieces.getLast? = some "" then pieces.dropLast else pieces

/-- The name of a file in messages, always in quotes. -/
def namedFile (text : String) : String := namedText true text

/-- The name of a file in messages, in quotes if it needs them. -/
def shownFile (text : String) : String := namedText false text

end Runbook.Shell
