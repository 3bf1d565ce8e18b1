import Runbook.Shell.Builtin.Variables

/-!
# Commands that change the course of a script

A script ends, a function returns, and loops end or go on with their next round.
-/

namespace Runbook.Shell

/-- The status that an operand spells. In the extended language any number is cut to a status; what
is no number is told. -/
def statusOf (text : String) : Act (Option Nat) := do
  match (← get).dialect with
  | .common => return some (← numberOf text)
  | .extended =>
    let digits := if text.front == '+' then String.ofList (text.toList.drop 1) else text
    match digits.toInt? with
    | some n => return some (n % 256).toNat
    | none =>
      complainIn (text ++ ": numeric argument required")
      return none

/-- Refuses more than one operand in the extended language; that ends the script. -/
def refuseMore (operands : List String) : Act Unit := do
  if (← get).isExtended && 1 < operands.length then
    complainIn "too many arguments"
    setStatus 1
    throw .leave

/-- The operands behind a mark that ends options. -/
def behindMark : List String → List String
  | "--" :: rest => rest
  | arguments => arguments

/-- Ends the shell. In a trap the status is by default the one from before it. -/
def exitCommand : Utility := fun arguments => do
  let machine ← get
  match behindMark arguments with
  | [] =>
    let status := machine.trapStatus.getD machine.status
    set { machine with status, trapStatus := machine.trapStatus.map fun _ => status }
    throw .finish
  | text :: more =>
    match ← statusOf text with
    | none =>
      setStatus 2
      throw .finish
    | some status =>
      refuseMore (text :: more)
      modify fun machine =>
        { machine with status, trapStatus := machine.trapStatus.map fun _ => status }
      throw .finish

/-- Ends a function, or a script that is read by another one. -/
def returnCommand : Utility := fun arguments => do
  let machine ← get
  if machine.isExtended && machine.callers.isEmpty then
    complainIn "can only \x60return' from a function or sourced script"
    return 2
  else
    match behindMark arguments with
    | [] =>
      set { machine with skip := some (.back false) }
      return machine.status
    | text :: more =>
      refuseMore (text :: more)
      let status := (← statusOf text).getD 2
      modify fun machine => { machine with skip := some (.back true) }
      return status

/-- Ends loops, or lets them go on with their next round. -/
def leaveLoops (skip : Nat → Skip) : Utility := fun arguments => do
  let machine ← get
  let arguments := behindMark arguments
  if machine.isExtended && machine.loops = 0 then
    complainIn "only meaningful in a \x60for', \x60while', or \x60until' loop"
    return 0
  else
    let leave (n : Nat) : Act Nat := do
      let n := min n machine.loops
      if 0 < n then set { machine with skip := some (skip n) }
      return 0
    match arguments with
    | [] => leave 1
    | text :: more =>
      match machine.dialect with
      | .common =>
        let n ← numberOf text
        if n = 0 then abandon 2 ("Illegal number: " ++ text) else leave n
      | .extended =>
        match text.toInt? with
        | none =>
          complainIn (text ++ ": numeric argument required")
          setStatus 128
          throw .finish
        | some n =>
          refuseMore (text :: more)
          if n ≤ 0 then
            complainIn (text ++ ": loop count out of range")
            set { machine with skip := some (.loopEnd machine.loops) }
            return 1
          else leave n.toNat

/-- Tells where the function or file that is being run was called from. -/
def callerCommand : Utility := fun arguments => do
  let stack := (← get).stack
  match behindMark arguments with
  | [] =>
    match stack with
    | [] => return 1
    | top :: others =>
      say 1 (toString top.line ++ " " ++ (others.head?.map Caller.source).getD "NULL" ++ "\n")
      return 0
  | text :: _ =>
    match readNat? 10 text.toList with
    | none =>
      complainIn (text ++ ": invalid number")
      sayUsage
      return 2
    | some n =>
      match stack[n]?, stack[n + 1]? with
      | some inner, some outer =>
        say 1 (toString inner.line ++ " " ++ outer.name ++ " " ++ outer.source ++ "\n")
        return 0
      | _, _ => return 1

/-- Refuses what only a shell can do that someone has logged in to. -/
def logoutCommand : Utility := fun _ => do
  complainIn "not login shell: use \x60exit'"
  return 1

/-- Refuses to stop a shell that does not control jobs. -/
def suspendCommand : Utility := fun arguments => do
  let (_, _) ← optionsOf "f" arguments
  complainIn "cannot suspend: no job control"
  return 1

/-- Tells how much time was used: none, by the clock of the processes. -/
def timesCommand : Utility := fun _ => do
  let line :=
    if (← get).isExtended then "0m0.000s 0m0.000s\n" else "0m0.000000s 0m0.000000s\n"
  say 1 (line ++ line)
  return 0

/-- Tells or sets limits; nothing is limited. -/
def limitCommand : Utility := fun arguments => do
  let known := if (← get).isExtended then "SHabcdefiklmnpqrstuvxPRT" else "HSatfdscmlpnvwr"
  let (options, operands) ← optionsOf known arguments
  if operands.isEmpty && !(options.any fun option => option.1 == 'a') then say 1 "unlimited\n"
  return 0

end Runbook.Shell
