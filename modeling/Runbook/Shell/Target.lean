import Runbook.Shell.Builtin.Variables
import Runbook.Shell.Expand
import Runbook.Shell.Redirection

/-!
# Targets

The target of a redirection is expanded before anything is opened. Targets are opened in order, and
the first that cannot be opened undoes those before it.
-/

namespace Runbook.Shell

/-- A redirection with the text of its target, and whether this is one text. -/
structure Target where
  descriptor : Nat
  holder : Option String
  kind : RedirectKind
  text : String
  isOne : Bool

/-- The texts of the targets of redirections. In the extended language a target must be one
field. -/
def expandTargets (fuel : Nat) (run : List Command → Act Unit) :
    List Redirect → Act (List Target)
  | [] => return []
  | .mk descriptor holder kind target number :: rest => do
    let machine ← get
    let (text, isOne) ←
      if kind = .hereText then
        let body := (machine.hereTexts[number]?.map Wording.word).getD []
        pure (plainText (← expandWord fuel run false body), true)
      else if machine.isExtended && kind != .hereWord then
        match ← expandFields fuel run [target.word] with
        | [text] => pure (text, true)
        | _ => pure (target.text, false)
      else
        let text ← expandText fuel run target.word
        pure (text, true)
    return ⟨descriptor, holder, kind, text, isOne⟩ :: (← expandTargets fuel run rest)

/-- The first descriptor for one that a variable is to hold. -/
def heldDescriptor : Nat := 10

/-- Makes a free descriptor lead to a stream and gives a variable its number, or closes the one
whose number the variable holds. -/
def holdStream (name : String) (stream : Option Nat) : Act Unit := do
  match stream with
  | none =>
    match readNat? 10 ((← get).textOf name).toList with
    | some descriptor => connect descriptor none
    | none => return ()
  | some stream =>
    let me ← myself
    let descriptor ← Act.look fun state =>
      ((List.range 100).map (· + heldDescriptor)).find? fun n => (state.streamOf? me n).isNone
    match descriptor with
    | some descriptor =>
      connect descriptor (some stream)
      assignText name (toString descriptor)
    | none => return ()

/-- Opens targets in order up to the first that cannot be opened; gives what was saved, and the
words for the failure. -/
def openTargets (saved : Saved) : List Target → Act (Saved × Option String)
  | [] => return (saved, none)
  | ⟨descriptor, holder, kind, text, isOne⟩ :: rest => do
    if !isOne then return (saved, some (text ++ ": ambiguous redirect"))
    else
      let isExtended := (← get).isExtended
      let isCopy := kind = .copyOutput || kind = .copyInput
      let moved? :=
        if isCopy && isExtended && text.toList.getLast? = some '-' then
          readNat? 10 text.toList.dropLast else none
      let text := moved?.elim text fun n => toString n
      let isOutput := kind = .copyOutput && isExtended && descriptor = 1 && holder.isNone &&
        text != "-" && !text.all Char.isDigit
      let kind := if isOutput then .outputAndErrors false else kind
      match ← openTarget kind text with
      | .error message => return (saved, some message)
      | .ok stream =>
        match holder with
        | some name =>
          holdStream name stream
          openTargets saved rest
        | none =>
          let saved ← redirectTo saved descriptor stream
          let saved ←
            match moved? with
            | some n => if n = descriptor then pure saved else redirectTo saved n none
            | none => pure saved
          match kind with
          | .outputAndErrors _ => openTargets (← redirectTo saved 2 stream) rest
          | _ => openTargets saved rest

/-- The status of a redirection that cannot be made. -/
def Machine.redirectStatus (machine : Machine) : Nat := if machine.isExtended then 1 else 2

/-- Opens targets; what cannot be opened is told, and where descriptors led is restored. -/
def openOrTell (targets : List Target) : Act (Option Saved) := do
  let (saved, failure) ← openTargets [] targets
  match failure with
  | none => return some saved
  | some message =>
    restore saved
    complain message
    setStatus (← get).redirectStatus
    return none

end Runbook.Shell
