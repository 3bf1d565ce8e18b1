import Runbook.Disk.Tree
import Runbook.Shell.Machine
import Runbook.Shell.Source

/-!
# Looking commands up

The name of a command may be a word of the language, an alias, a function, a command of the shell or
a program on the disk. Programs are looked for in the directories of the search path.
-/

namespace Runbook.Shell

/-- The commands of the common language that are special: their errors end a script. -/
def specialCommands : List String :=
  [".", ":", "break", "continue", "eval", "exec", "exit", "export", "local", "readonly", "return",
   "set", "shift", "times", "trap", "unset"]

/-- The other commands that a shell carries out itself. -/
def regularCommands : List String :=
  ["[", "alias", "bg", "cd", "chdir", "command", "echo", "false", "fg", "getopts", "hash", "jobs",
   "kill", "printf", "pwd", "read", "test", "true", "type", "ulimit", "umask", "unalias", "wait"]

/-- The commands that only the extended language has. -/
def extendedCommands : List String :=
  ["bind", "builtin", "caller", "compgen", "complete", "compopt", "declare", "dirs", "disown",
   "enable", "fc", "help", "history", "let", "logout", "mapfile", "popd", "pushd", "readarray",
   "shopt", "source", "suspend", "typeset"]

/-- Whether a command belongs to the shell. -/
def Machine.isOwn (machine : Machine) (name : String) : Bool :=
  let isRegular := regularCommands.contains name && (!machine.isExtended || name != "chdir")
  (specialCommands.contains name || isRegular ||
    (machine.isExtended && extendedCommands.contains name)) && !machine.disabled.contains name

/-- Whether errors of a command end a script. -/
def Machine.isSpecial (machine : Machine) (name : String) : Bool :=
  !machine.isExtended && specialCommands.contains name

/-- Whether a command of the extended language may keep variables to the function around it. -/
def Machine.keepsIn (machine : Machine) (name : String) : Bool :=
  machine.isExtended && ["declare", "local", "typeset"].contains name &&
    (machine.functions.lookup name).isNone

/-- Where a search may lead: to a file that can be run, to one that cannot, or nowhere. -/
inductive Search where
  | program (path : String)
  | refused (path : String)
  | absent
  deriving DecidableEq, Repr

/-- The directories of a search path. -/
def searchFronts (search : String) : List String := search.splitOn ":"

/-- The path of a name in a directory of the search path. -/
def pathIn (front name : String) : String := if front = "" then name else front ++ "/" ++ name

/-- Looks for a program in directories. One that cannot be run is found if no other is; in the
common language a directory is such a one. -/
def searchIn (dialect : Dialect) (disk : Disk) (directory : Location) (name : String) :
    List String → Search
  | [] => .absent
  | front :: fronts =>
    let path := pathIn front name
    match disk.stat directory (Text.decode path) with
    | .ok (_, .file _ true) => .program path
    | .ok (_, entry) =>
      match searchIn dialect disk directory name fronts with
      | .absent =>
        if dialect = .common || entry != .directory then .refused path else .absent
      | found => found
    | .error _ => searchIn dialect disk directory name fronts

/-- The search path of a machine. -/
def Machine.search (machine : Machine) : String := machine.textOf "PATH"

/-- Looks for a program by its name. One with a slash is a path. -/
def Machine.searchFor (machine : Machine) (disk : Disk) (search name : String) : Search :=
  if name.toList.contains '/' then
    match disk.stat machine.directory (Text.decode name) with
    | .ok (_, .file _ true) => .program name
    | .ok _ => .refused name
    | .error error => if error.meansAbsent then .absent else .refused name
  else searchIn machine.dialect disk machine.directory name (searchFronts search)

/-- What a name stands for. -/
inductive Meaning where
  | reserved
  | alias (text : String)
  | function
  | special
  | own
  | program (path : String) (hashed : Bool)
  | absent
  deriving DecidableEq, Repr

/-- What a name stands for as a command. -/
def Machine.meaningOf (machine : Machine) (disk : Disk) (search name : String) : Meaning :=
  let usesAliases := !machine.isExtended || machine.settings.contains "expand_aliases"
  if machine.dialect.reserves name then .reserved
  else
    match machine.aliases.lookup name, machine.functions.lookup name with
    | some text, _ => if usesAliases then .alias text else own name
    | none, some _ => .function
    | none, none => own name
where
  own (name : String) : Meaning :=
    if (machine.functions.lookup name).isSome then .function
    else if machine.isSpecial name then .special
    else if machine.isOwn name then .own
    else
      match machine.hashed.lookup name with
      | some kept => .program kept.path true
      | none =>
        match machine.searchFor disk search name with
        | .program path => .program path false
        | .refused _ | .absent => .absent

/-- The place of a name in a table of names with so many rows. -/
def tableRow (rows : Nat) (name : String) : Nat :=
  (name.toList.foldl (fun sum c => sum + c.toNat) (name.front.toNat * 16)) % 32768 % rows

/-- Entries in the order in which a table of so many rows gives them. -/
def inTableOrder {α : Type} (rows : Nat) (entries : List (String × α)) : List (String × α) :=
  entries.mergeSort fun a b => tableRow rows a.1 ≤ tableRow rows b.1

/-- The number of rows of the table of variables, and of that of aliases. -/
def variableRows : Nat := 39

/-- The number of rows of the table of commands. -/
def commandRows : Nat := 31

end Runbook.Shell
