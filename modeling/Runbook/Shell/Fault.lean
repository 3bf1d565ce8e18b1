import Runbook.Shell.Builtin.Basic
import Runbook.Shell.Reader

/-!
# Faults

A text that is no script is told with the place where its grammar fails; the extended language also
quotes the line.
-/

namespace Runbook.Shell

/-- The name of a text in messages about its grammar. -/
def tokenText : TokenName → String
  | .ended => "end of file"
  | .newline => "newline"
  | .redirect mark | .mark mark => mark
  | .word text => text

/-- Tells a fault in the text of a script that starts on some line. In the extended language a shell
that stops at failures tells no more than what is wrong. -/
def tellFault (first : Nat) (text : List Char) (error : ScriptError) : Act Unit := do
  let machine ← get
  match machine.dialect with
  | .common =>
    modify fun machine => { machine with line := error.line }
    complain ("Syntax error: " ++ error.fault.text)
  | .extended =>
    let place := machine.sourceName ++ ": " ++ machine.input.elim "" (· ++ ": ")
    let front (line : Nat) : String := place ++ "line " ++ toString line ++ ": "
    let lines := (String.ofList text).splitOn "\n"
    let quote (line : Nat) : String :=
      front line ++ "\x60" ++ (lines[line - first]?).getD "" ++ "'\n"
    let last := first - 1 + lines.length + (if lines.getLast? = some "" then 0 else 1)
    let missing (mark : String) : List String :=
      [front error.start ++ "unexpected EOF while looking for matching \x60" ++ mark ++ "'\n"]
    let told : List String :=
      match error.fault with
      | .unexpected .ended _ => [front last ++ "syntax error: unexpected end of file\n"]
      | .unexpected token _ =>
        [front error.line ++ "syntax error near unexpected token \x60" ++ tokenText token ++ "'\n",
          quote error.line]
      | .unterminatedQuote mark => missing mark.toString
      | .missingBrace => missing "\x7d"
      | .missingParentheses => missing ")"
      | .unterminatedCommand => missing "\x60"
      | .badLoopName name => [front error.line ++ "\x60" ++ name ++ "': not a valid identifier\n"]
      | .badFunctionName name =>
        [front error.line ++ "\x60" ++ name ++ "': not a valid identifier\n"]
      | .badCondition token =>
        [front error.line ++ "syntax error in conditional expression\n",
          front error.line ++ "syntax error near \x60" ++ tokenText token ++ "'\n",
          quote error.line]
    say 2 (String.join (if machine.has 'e' then told.take 1 else told))

/-- The source of a text that a machine reads from a line on. In the extended language the last line
is always ended. -/
def Machine.source (machine : Machine) (line : Nat) (text : List Char) : Source :=
  let usesAliases := !machine.isExtended || machine.settings.contains "expand_aliases"
  let isOpen := machine.isExtended && text.getLast?.any (· != '\n')
  ⟨if isOpen then text ++ ['\n'] else text, line, machine.dialect,
    if usesAliases then machine.aliases else [], [], none, [], machine.hereTexts, none⟩

/-- The lines of a text from one up to another; the last one of the text may be ended too. -/
def linesBetween (endsAll : Bool) (first last : Nat) (text : List Char) : String :=
  let lines := (String.ofList text).splitOn "\n"
  let wanted := (lines.take (last - 1)).drop (first - 1)
  String.join ((wanted.zipIdx (first - 1)).map fun (line, n) =>
    if n + 1 < lines.length || (endsAll && line != "") then line ++ "\n" else line)

/-- Whether the end of a source was seen. -/
def Source.isOver (source : Source) : Bool :=
  match source.pushed with
  | some .ended => true
  | _ => false

end Runbook.Shell
