/-!
# Scripts of a command shell

A script is a list of commands. The words of a command are made of segments that are text or stand
for text found out when the command is run. Quoted segments are neither split nor matched against
file names. Most scripts keep to the common language; one dialect knows more.
-/

namespace Runbook.Shell

/-- The language of a script: the common one, or the one with arrays, conditions in double brackets
and more ways to use a parameter. -/
inductive Dialect where
  | common
  | extended
  deriving DecidableEq, Repr

/-- Which letters change their case. -/
inductive Recasing where
  | firstUp
  | allUp
  | firstDown
  | allDown
  | firstSwap
  | allSwap
  deriving DecidableEq, Repr

/-- Where a pattern has to stand to be replaced. -/
inductive Replacing where
  | first
  | all
  | front
  | back
  deriving DecidableEq, Repr

/-- How a parameter is used in a word. -/
inductive ParamUse where
  | plain
  | length
  | orElse (emptyToo : Bool)
  | assign (emptyToo : Bool)
  | orFail (emptyToo : Bool)
  | instead (emptyToo : Bool)
  | dropFront (longest : Bool)
  | dropBack (longest : Bool)
  | slice
  | replace (how : Replacing)
  | recase (how : Recasing)
  | transform (letter : Char)
  | indirect
  | indices
  | namesLike
  | unknown (text : String)
  deriving DecidableEq, Repr

/-- Where a redirection leads. -/
inductive RedirectKind where
  | input
  | output
  | overwrite
  | append
  | both
  | copyInput
  | copyOutput
  | hereText
  | hereWord
  | outputAndErrors (appends : Bool)
  deriving DecidableEq, Repr

mutual

/-- A part of a word. The index of a parameter picks from a list of values. -/
inductive Segment where
  | text (chars : String) (quoted : Bool)
  | param (name : String) (index : Option (List Segment)) (use : ParamUse)
      (arguments : List (List Segment)) (quoted : Bool)
  | command (body : List Command) (quoted : Bool)
  | arithmetic (expression : List Segment) (quoted : Bool)
  | stream (writes : Bool) (body : List Command)

/-- A word with the text that spells it. -/
inductive Wording where
  | mk (text : String) (segments : List Segment)

/-- A change of where a command reads or writes. The target of a here text tells its number. A
variable may get the number of a descriptor that is free. -/
inductive Redirect where
  | mk (descriptor : Nat) (holder : Option String) (kind : RedirectKind) (target : Wording)
      (hereText : Nat)

/-- A variable that is given a value, or a list of values, with the text that spells it. -/
inductive Assignment where
  | value (name : String) (index : Option (List Segment)) (appends : Bool) (word : List Segment)
      (text : String)
  | list (name : String) (appends : Bool)
      (elements : List (Option (List Segment) × List Segment)) (text : String)

/-- A condition in double brackets. -/
inductive Condition where
  | one (operator : String) (word : Wording)
  | two (operator : String) (first second : Wording)
  | inner (condition : Condition)
  | not (inner : Condition)
  | both (first second : Condition)
  | either (first second : Condition)

/-- A command. Its line is told in messages about it. A loop over words may ask which one is meant.
A clause of a choice says how to go on behind it. -/
inductive Command where
  | simple (line : Nat) (assignments : List Assignment) (words : List Wording)
      (redirects : List Redirect)
  | declare (line : Nat) (words : List Wording) (assignments : List Assignment)
      (redirects : List Redirect)
  | negate (body : Command)
  | pipeline (parts : List Command)
  | both (first second : Command)
  | either (first second : Command)
  | subshell (line : Nat) (body : List Command) (redirects : List Redirect)
  | background (line : Nat) (text : String) (body : Command)
  | group (body : List Command)
  | branch (condition body otherwise : List Command)
  | loop (whileTrue : Bool) (condition body : List Command)
  | forEach (line : Nat) (name : String) (words : Option (List Wording)) (asks : Bool)
      (body : List Command)
  | count (line : Nat) (start condition step : Wording) (body : List Command)
  | choose (line : Nat) (word : Wording)
      (clauses : List (List Wording × List Command × String))
  | calculate (line : Nat) (expression : Wording)
  | check (line : Nat) (condition : Condition)
  | define (line : Nat) (name : String) (body : Command)
  | coprocess (line : Nat) (name text : String) (body : Command)
  | redirected (line : Nat) (body : Command) (redirects : List Redirect)

end

/-- A word: its segments stand side by side. -/
abbrev Word := List Segment

namespace Wording

/-- The text that spells a word. -/
def text : Wording → String
  | mk text _ => text

/-- The word itself. -/
def word : Wording → Word
  | mk _ word => word

end Wording

instance : Inhabited Command := ⟨.group []⟩

/-- A piece of the text of a script, as messages name it. -/
inductive TokenName where
  | ended
  | newline
  | redirect (mark : String)
  | word (text : String)
  | mark (text : String)
  deriving DecidableEq, Repr

/-- What is wrong with the text of a script. -/
inductive ScriptFault where
  | unexpected (token : TokenName) (expected : Option String)
  | unterminatedQuote (mark : Char)
  | missingBrace
  | missingParentheses
  | unterminatedCommand
  | badLoopName (name : String)
  | badFunctionName (name : String)
  | badCondition (token : TokenName)
  deriving DecidableEq, Repr

/-- A fault with its line, and the line on which the text that it is about starts. -/
structure ScriptError where
  line : Nat
  start : Nat
  fault : ScriptFault
  deriving DecidableEq, Repr

/-- The name of a token in the common language. -/
def TokenName.text : TokenName → String
  | ended => "end of file"
  | newline => "newline"
  | redirect _ => "redirection"
  | word _ => "word"
  | mark text => "\x22" ++ text ++ "\x22"

/-- The words for a fault in the common language. -/
def ScriptFault.text : ScriptFault → String
  | unexpected token none => token.text ++ " unexpected"
  | unexpected token (some expected) =>
    token.text ++ " unexpected (expecting " ++ expected ++ ")"
  | unterminatedQuote _ => "Unterminated quoted string"
  | missingBrace => "Missing '\x7d'"
  | missingParentheses => "Missing '))'"
  | unterminatedCommand => "EOF in backquote substitution"
  | badLoopName _ => "Bad for loop variable"
  | badFunctionName _ => "Bad function name"
  | badCondition token => token.text ++ " unexpected"

/-- Puts text in front of a word; neighbouring texts that are quoted alike are one. -/
def withText (chars : List Char) (quoted : Bool) : Word → Word
  | .text more q :: rest =>
    if q = quoted && more != "" then .text (String.ofList (chars ++ more.toList)) q :: rest
    else .text (String.ofList chars) quoted :: .text more q :: rest
  | rest => .text (String.ofList chars) quoted :: rest

/-- The text of a word that has no quotes and no substitutions. -/
def plainWord? : Word → Option String
  | [.text chars false] => some chars
  | _ => none

/-- The text of a word without any substitution, and whether a part of it is quoted. -/
def literalText : Word → String × Bool
  | [] => ("", false)
  | .text chars quoted :: rest =>
    let (more, anyQuoted) := literalText rest
    (chars ++ more, quoted || anyQuoted)
  | .param name _ _ _ quoted :: rest =>
    let (more, anyQuoted) := literalText rest
    ("$" ++ name ++ more, quoted || anyQuoted)
  | _ :: rest => literalText rest

end Runbook.Shell
