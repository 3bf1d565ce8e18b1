import Runbook.Shell.Builtin.Condition
import Runbook.Shell.Expand
import Runbook.Shell.Regex

/-!
# Conditions in double brackets

In the extended language conditions are part of the language: their words are not split, and texts
are compared with patterns.
-/

namespace Runbook.Shell

/-- The text of a word as a regular expression: its quoted characters stand for themselves. -/
def regexText (marks : List Mark) : List Char :=
  (markedText marks).flatMap fun (c, quoted) =>
    if quoted && ".[]*^$+?()\x7b\x7d|\\".toList.contains c then ['\\', c] else [c]

/-- Keeps what a regular expression matched. -/
def keepMatch (found : Option RegexMatch) (groups : Nat) : Act Unit := do
  let texts :=
    match found with
    | none => []
    | some found =>
      (0, Text.encode (String.ofList found.text)) :: (List.range groups).map fun n =>
        (n + 1, Text.encode (String.ofList ((found.groups.lookup (n + 1)).getD [])))
  modify fun machine =>
    machine.putVariable "BASH_REMATCH" { Variable.unset with content := some (.listed texts) }

/-- Whether a text matches a regular expression; what it matched is kept. -/
def matchesRegex (text : String) (expression : List Char) : Act Bool := do
  match regexOf? .extended (Text.decode (String.ofList expression)).toList with
  | none =>
    setStatus 2
    throw .fault
  | some regex =>
    let found := regex.find? ((← get).settings.contains "nocasematch") (Text.decode text).toList
    keepMatch found (expression.count '(')
    return found.isSome

/-- The number that a text gives as an expression. -/
def checkNumber (text : String) : Act Int := do
  match ← calculate (some "[[") text with
  | some n => return n
  | none =>
    setStatus 1
    throw .fault

/-- A pattern as it is traced: its quoted characters stand behind backslashes. -/
def tracedPattern (marks : List Mark) : String :=
  String.ofList ((markedText marks).flatMap fun (c, quoted) => if quoted then ['\\', c] else [c])

/-- A condition about words as it is traced. -/
def tracedCondition (negated : Bool) (parts : List String) : String :=
  "[[ " ++ (if negated then "! " else "") ++ " ".intercalate parts ++ " ]]"

/-- An empty text as it is traced. -/
def tracedPart (text : String) : String := if text = "" then "''" else text

/-- Whether a condition in double brackets holds; each part is noted before it is tried. -/
def checkCondition (fuel : Nat) (run : List Command → Act Unit) (note : String → Act Unit)
    (negated : Bool) : Condition → Act Bool
  | .one operator word => do
    let text ← expandText fuel run word.word
    note (tracedCondition negated [operator, tracedPart text])
    return (← holdsUnary operator text) != negated
  | .two operator first second => do
    let text ← expandText fuel run first.word
    let noteBoth (other : String) : Act Unit :=
      note (tracedCondition negated [tracedPart text, operator, tracedPart other])
    let numbers (holds : Int → Int → Bool) : Act Bool := do
      let other ← expandText fuel run second.word
      noteBoth other
      let a ← checkNumber text
      return holds a (← checkNumber other)
    let matched : Act Bool := do
      let machine ← get
      let marks ← expandWord fuel run false (withTildes machine false second.word)
      noteBoth (tracedPattern marks)
      let pattern := machine.pattern machine.comparingStyle (markedText marks)
      return matchesPattern pattern (machine.units text)
    let holds ←
      match operator with
      | "=" | "==" => matched
      | "!=" => not <$> matched
      | "=~" =>
        let marks ← expandWord fuel run false second.word
        noteBoth (String.ofList (regexText marks))
        matchesRegex text (regexText marks)
      | "-eq" => numbers (· == ·)
      | "-ne" => numbers (· != ·)
      | "-lt" => numbers (· < ·)
      | "-le" => numbers (· ≤ ·)
      | "-gt" => numbers fun a b => b < a
      | "-ge" => numbers fun a b => b ≤ a
      | _ =>
        let other ← expandText fuel run second.word
        noteBoth other
        holdsBinary text operator other
    return holds != negated
  | .inner condition => do return (← checkCondition fuel run note false condition) != negated
  | .not condition => checkCondition fuel run note (!negated) condition
  | .both first second => do
    if ← checkCondition fuel run note false first then
      return (← checkCondition fuel run note false second) != negated
    else return negated
  | .either first second => do
    if ← checkCondition fuel run note false first then return !negated
    else return (← checkCondition fuel run note false second) != negated

end Runbook.Shell
