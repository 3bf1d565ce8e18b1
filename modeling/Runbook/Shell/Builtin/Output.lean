import Runbook.Shell.Builtin.Variables

/-!
# Commands that write

Words are written as they are or in a form.
-/

namespace Runbook.Shell

/-- The options in front of the words of the extended language: whether the line is ended and
whether escapes are replaced; and the words. -/
def echoOptions (ended escapes : Bool) : List String → Bool × Bool × List String
  | [] => (ended, escapes, [])
  | word :: rest =>
    match word.toList with
    | '-' :: c :: letters =>
      if (c :: letters).all "neE".toList.contains then
        let ended := ended && !(c :: letters).contains 'n'
        let escapes := ((c :: letters).filter (· != 'n')).getLast?.elim escapes (· == 'e')
        echoOptions ended escapes rest
      else (ended, escapes, word :: rest)
    | _ => (ended, escapes, word :: rest)

/-- Writes words and a line end; an option leaves it out. -/
def echo : Utility := fun arguments => do
  let machine ← get
  let (ended, escapes, words) :=
    match machine.dialect, arguments with
    | .common, "-n" :: words => (false, true, words)
    | .common, words => (true, true, words)
    | .extended, words => echoOptions true (machine.settings.contains "xpg_echo") words
  let text := " ".intercalate words
  if escapes then
    let (text, stopped) := unescaped machine.dialect text.toList
    say 1 (String.ofList text ++ if ended && !stopped then "\n" else "")
  else say 1 (text ++ if ended then "\n" else "")
  return 0

/-- Writes its arguments in a form, or lets a variable have the text. -/
def printf : Utility := fun arguments => do
  let machine ← get
  let (options, operands) ← optionsOf (if machine.isExtended then "v:" else "") arguments
  match operands with
  | [] =>
    match machine.dialect with
    | .common => abandon 2 "usage: printf format [arg ...]"
    | .extended =>
      sayUsage
      return 2
  | form :: values =>
    let formed := formAll machine.dialect form values
    for complaint in formed.complaints do complainIn complaint
    match options.lookup 'v' with
    | some name => assignText name (String.ofList formed.text)
    | none => say 1 (String.ofList formed.text)
    if formed.failed && !machine.isExtended then
      setStatus 2
      throw .fault
    else return if formed.complaints.isEmpty then 0 else 1

end Runbook.Shell
