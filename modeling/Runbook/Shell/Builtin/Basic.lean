import Runbook.Number.Power
import Runbook.Shell.Redirection
import Runbook.Shell.Source

/-!
# Commands of a shell

A command takes its arguments and gives a status. Most have options of one letter in front of their
operands.
-/

namespace Runbook.Shell

/-- What a command does with its arguments; it gives a status. -/
abbrev Utility := List String → Act Nat

/-- The options in front of the operands, with their values, and the operands; or the letter that is
not known, or that lacks its value. A letter with a colon behind it takes a value. -/
def parseOptions (fuel : Nat) (known : List Char) (arguments : List String) :
    Except (Char × Bool) (List (Char × String) × List String) :=
  match fuel with
  | 0 => .ok ([], arguments)
  | fuel + 1 =>
    match arguments with
    | [] => .ok ([], [])
    | "--" :: operands => .ok ([], operands)
    | argument :: rest =>
      match argument.toList with
      | '-' :: letter :: letters =>
        match known.dropWhile (· != letter) with
        | [] => .error (letter, false)
        | _ :: behind =>
          if letter == ':' then .error (letter, false)
          else if behind.head? = some ':' then
            match letters, rest with
            | [], [] => .error (letter, true)
            | [], value :: rest =>
              (parseOptions fuel known rest).map fun (more, operands) =>
                ((letter, value) :: more, operands)
            | _, _ =>
              (parseOptions fuel known rest).map fun (more, operands) =>
                ((letter, String.ofList letters) :: more, operands)
          else
            let rest := if letters.isEmpty then rest else String.ofList ('-' :: letters) :: rest
            (parseOptions fuel known rest).map fun (more, operands) =>
              ((letter, "") :: more, operands)
      | _ => .ok ([], argument :: rest)

/-- The ways in which the commands of the extended language say how they are used. -/
def usages : List (String × String) :=
  [("cd", "cd [-L|[-P [-e]] [-@]] [dir]"), ("pwd", "pwd [-LP]"),
   ("set", "set [-abefhkmnptuvxBCEHPT] [-o option-name] [--] [-] [arg ...]"),
   ("read", "read [-ers] [-a array] [-d delim] [-i text] [-n nchars] [-N nchars] [-p prompt] " ++
     "[-t timeout] [-u fd] [name ...]"),
   ("unset", "unset [-f] [-v] [-n] [name ...]"),
   ("export", "export [-fn] [name[=value] ...] or export -p"),
   ("readonly", "readonly [-aAf] [name[=value] ...] or readonly -p"),
   ("getopts", "getopts optstring name [arg ...]"), ("umask", "umask [-p] [-S] [mode]"),
   ("type", "type [-afptP] name [name ...]"),
   ("kill", "kill [-s sigspec | -n signum | -sigspec] pid | jobspec ... or kill -l [sigspec]"),
   ("trap", "trap [-lp] [[arg] signal_spec ...]"), ("wait", "wait [-fn] [-p var] [id ...]"),
   ("alias", "alias [-p] [name[=value] ... ]"), ("unalias", "unalias [-a] name [name ...]"),
   ("command", "command [-pVv] command [arg ...]"),
   ("printf", "printf [-v var] format [arguments]"), ("shift", "shift [n]"),
   ("source", "source filename [arguments]"), (".", ". filename [arguments]"),
   ("local", "local [option] name[=value] ..."),
   ("hash", "hash [-lr] [-p pathname] [-dt] [name ...]"),
   ("declare",
    "declare [-aAfFgiIlnrtux] [name[=value] ...] or declare -p [-aAfFilnrtux] [name ...]"),
   ("typeset", "typeset [-aAfFgiIlnrtux] name[=value] ... or typeset -p [-aAfFilnrtux] [name ...]"),
   ("pushd", "pushd [-n] [+N | -N | dir]"), ("popd", "popd [-n] [+N | -N]"),
   ("dirs", "dirs [-clpv] [+N] [-N]"), ("let", "let arg [arg ...]"),
   ("shopt", "shopt [-pqsu] [-o] [optname ...]"),
   ("exec", "exec [-cl] [-a name] [command [argument ...]] [redirection ...]"),
   ("mapfile", "mapfile [-d delim] [-n count] [-O origin] [-s count] [-t] [-u fd] [-C callback] " ++
     "[-c quantum] [array]")]

/-- Writes how the command is used, in the extended language. -/
def sayUsage : Act Unit := do
  let command := (← get).command.getD ""
  match usages.lookup command with
  | some usage => say 2 (command ++ ": usage: " ++ usage ++ "\n")
  | none => pure ()

/-- Refuses the use of a command that is being carried out. -/
def refuseOption {α : Type} (letter : Char) (lacksValue : Bool) : Act α := do
  match (← get).dialect with
  | .common =>
    abandon 2 (if lacksValue then "No arg for -" ++ letter.toString ++ " option"
      else "Illegal option -" ++ letter.toString)
  | .extended =>
    complainIn ("-" ++ letter.toString ++
      (if lacksValue then ": option requires an argument" else ": invalid option"))
    sayUsage
    setStatus 2
    throw .fault

/-- The options and operands of a command of the shell; what is not known is a fault. -/
def optionsOf (known : String) (arguments : List String) :
    Act (List (Char × String) × List String) := do
  match parseOptions (arguments.length + sumOf (arguments.map String.length) + 1) known.toList
      arguments with
  | .ok found => return found
  | .error (letter, lacksValue) => refuseOption letter lacksValue

/-- The number that a text spells between blanks, with a sign or without. -/
def blankNumber? (text : String) : Option Nat :=
  let isBlank (c : Char) : Bool := " \t\n\x0b\x0c\r".toList.contains c
  let inner := ((text.toList.dropWhile isBlank).reverse.dropWhile isBlank).reverse
  match inner with
  | '+' :: digits => readNat? 10 digits
  | '-' :: digits => (readNat? 10 digits).filter (· = 0)
  | digits => readNat? 10 digits

/-- The number that an operand spells; anything else is a fault. -/
def numberOf (text : String) : Act Nat := do
  match blankNumber? text with
  | some n =>
    if n < twoTo 31 then return n else abandon 2 ("Illegal number: " ++ text)
  | none => abandon 2 ("Illegal number: " ++ text)

/-- Does something for each operand; the status is the greatest one. -/
def forOperands (act : String → Act Nat) (operands : List String) : Act Nat :=
  operands.foldlM (fun status operand => return max status (← act operand)) 0

/-- Whether a text is the name of a variable. -/
def isVariableName (text : String) : Bool := isName text.toList

end Runbook.Shell
