import Runbook.Shell.Lookup
import Runbook.Shell.Utility.Files

/-!
# Programs for names

These programs take paths apart, look for programs, and tell who and where the user is.
-/

namespace Runbook.Shell

/-- A path without the slashes at its end; one of only slashes keeps one. -/
def withoutEndSlashes (path : String) : String :=
  let kept := path.toList.reverse.dropWhile (· == '/')
  if kept.isEmpty && path != "" then "/" else String.ofList kept.reverse

/-- The last name of a path, without an end that it is to lose. -/
def lastNameWithout (ending path : String) : String :=
  let whole := withoutEndSlashes path
  let name := if whole = "/" then whole else (whole.splitOn "/").getLast?.getD ""
  if name != ending && ending != "" && name.endsWith ending then
    String.ofList (name.toList.take (name.length - ending.length))
  else name

/-- A path without its last name. -/
def pathAbove (path : String) : String :=
  let whole := withoutEndSlashes path
  if whole = "/" then "/"
  else if whole.toList.contains '/' then
    let front := whole.toList.reverse.dropWhile (· != '/')
    withoutEndSlashes (String.ofList front.reverse)
  else "."

/-- What ends the texts that a program lists. -/
def listEnd (options : List (Char × String)) (letter : Char) : String :=
  if hasOption options letter then "\x00" else "\n"

/-- Refuses an operand too much. -/
def refuseExtra (operand : String) : Act Nat := refuseUsage ("extra operand ‘" ++ operand ++ "’") 1

/-- Tells the last names of paths. -/
def basename : Program := fun _ =>
  withOptions ⟨"azs:", [("multiple", 'a'), ("suffix", 's'), ("zero", 'z')], true⟩ 1
    fun options => needing "operand" fun operands => do
      let ending? := lastValue? options 's'
      let tell (ending path : String) : Act Nat := do
        say 1 (lastNameWithout ending path ++ listEnd options 'z')
        return 0
      if hasOption options 'a' || ending?.isSome then forOperands (tell (ending?.getD "")) operands
      else
        match operands with
        | [path] => tell "" path
        | [path, ending] => tell ending path
        | _ => refuseExtra (operands.getD 2 "")

/-- Tells the directories of paths. -/
def dirname : Program := fun _ =>
  withOptions ⟨"z", [("zero", 'z')], false⟩ 1 fun options =>
    needing "operand" <| forOperands fun path => do
      say 1 (pathAbove path ++ listEnd options 'z')
      return 0

/-- Tells where programs are. -/
def which : Program := fun _ arguments => do
  match parseOptions (arguments.length + 1) "as".toList arguments with
  | .error (letter, _) =>
    say 1 ("Illegal option -" ++ letter.toString ++ "\nUsage: /usr/bin/which [-as] args\n")
    return 2
  | .ok (options, names) =>
    let machine ← get
    let disk ← theDisk
    let isProgram (path : String) : Bool :=
      match disk.stat machine.directory (diskPath path) with
      | .ok (_, .file _ executable) => executable
      | _ => false
    let pathsOf (name : String) : List String :=
      let all :=
        if name.toList.contains '/' then [name]
        else (searchFronts machine.search).map fun front =>
          pathIn (if front = "" then "." else front) name
      let all := all.filter isProgram
      if hasOption options 'a' then all else all.take 1
    if names.isEmpty then return 1
    else
      forOperands (fun name => do
        let paths := pathsOf name
        if !hasOption options 's' then say 1 (String.join (paths.map (· ++ "\n")))
        return if paths.isEmpty then 1 else 0) names

/-- Tells a text; there are no operands. -/
def tellFact (text : String) : Program := fun _ =>
  withOptions ⟨"", [], false⟩ 1 fun _ operands => do
    match operands with
    | [] =>
      say 1 (text ++ "\n")
      return 0
    | operand :: _ => refuseExtra operand

/-- Tells who the user is: the administrator. -/
def idProgram : Program := fun _ =>
  withOptions ⟨"unrgGz", [("user", 'u'), ("group", 'g'), ("groups", 'G'), ("name", 'n'),
    ("real", 'r')], false⟩ 1 fun options operands => do
      let asksOne := "ugG".toList.any (hasOption options)
      match operands.filter (· != "root") with
      | operand :: _ =>
        report ("‘" ++ operand ++ "’: no such user")
        return 1
      | [] =>
        if hasOption options 'n' && !asksOne then
          report "cannot print only names or real IDs in default format"
          return 1
        else
          say 1 (if !asksOne then "uid=0(root) gid=0(root) groups=0(root)\n"
            else if hasOption options 'n' then "root\n" else "0\n")
          return 0

/-- The facts about the system by the letters that ask for them, in their order. -/
def systemFacts : List (Char × String) :=
  [('s', "Linux"), ('n', "localhost"), ('r', "6.1.0"), ('v', "#1 SMP"), ('m', "x86_64"),
   ('o', "GNU/Linux")]

/-- Tells facts about the system. -/
def uname : Program := fun _ =>
  withOptions ⟨"asnrvmpio", [("all", 'a'), ("kernel-name", 's'), ("nodename", 'n'),
    ("kernel-release", 'r'), ("kernel-version", 'v'), ("machine", 'm'),
    ("operating-system", 'o')], false⟩ 1 fun options operands => do
      match operands with
      | operand :: _ => refuseExtra operand
      | [] =>
        let asked := systemFacts.filter fun fact =>
          hasOption options 'a' || hasOption options fact.1 || (options.isEmpty && fact.1 == 's')
        say 1 (" ".intercalate (asked.map (·.2)) ++ "\n")
        return 0

/-- Tells that the input is no terminal. -/
def tty : Program := fun _ =>
  withOptions ⟨"s", [("silent", 's'), ("quiet", 's')], false⟩ 2 fun options _ => do
    if !hasOption options 's' then say 1 "not a tty\n"
    return 1

end Runbook.Shell
