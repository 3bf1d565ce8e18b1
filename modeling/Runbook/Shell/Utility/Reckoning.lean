import Runbook.Shell.Regex
import Runbook.Shell.Utility.Basic

/-!
# Reckoning with words

A program calculates what its arguments spell, one word each. Operands are texts; where an operator
needs numbers they must spell some.
-/

namespace Runbook.Shell

/-- What goes wrong in a calculation. -/
inductive WordFault where
  | missing (behind : String)
  | unexpected (word : String)
  | unclosed (word : String)
  | notNumber
  | zeroDivisor
  deriving DecidableEq, Repr

/-- The words for a fault. -/
def WordFault.text : WordFault → String
  | missing behind => "syntax error: missing argument after ‘" ++ behind ++ "’"
  | unexpected word => "syntax error: unexpected argument ‘" ++ word ++ "’"
  | unclosed word => "syntax error: expecting ')' after ‘" ++ word ++ "’"
  | notNumber => "non-integer argument"
  | zeroDivisor => "division by zero"

/-- The status for a fault. -/
def WordFault.status (_ : WordFault) : Nat := 2

/-- The words of a calculation: the last one that was passed and those ahead. -/
abbrev WordsAhead := String × List String

/-- The integer that a text spells. -/
def wordNumber? (text : String) : Option Int :=
  match text.toList with
  | '-' :: digits => (readNat? 10 digits).map fun n => -(n : Int)
  | digits => (readNat? 10 digits).map Int.ofNat

/-- Whether a value is neither empty nor zero. -/
def wordHolds (text : String) : Bool := text != "" && wordNumber? text != some 0

/-- The result of a match from the start: the first group, or the number of characters. -/
def wordMatch (text pattern : String) : String :=
  let anchored := if pattern.startsWith "^" then pattern else "^" ++ pattern
  let hasGroup := 1 < (pattern.splitOn "\\(").length
  match (regexOf? .basic anchored.toList).bind fun regex => regex.find? false text.toList with
  | none => if hasGroup then "" else "0"
  | some found =>
    if hasGroup then String.ofList ((found.groups.lookup 1).getD [])
    else toString found.text.length

/-- The levels at which binary operators bind, from the loosest to the tightest. -/
def wordLevels : List (List String) :=
  [["|"], ["&"], ["<", "<=", "=", "==", "!=", ">=", ">"], ["+", "-"], ["*", "/", "%"], [":"]]

/-- The value of an operator with its operands. -/
def operated (operator a b : String) : Except WordFault String :=
  let numbers (f : Int → Int → Except WordFault Int) : Except WordFault String :=
    match wordNumber? a, wordNumber? b with
    | some x, some y => (f x y).map toString
    | _, _ => .error .notNumber
  let order : Ordering :=
    match wordNumber? a, wordNumber? b with
    | some x, some y => compare x y
    | _, _ => compare a b
  let truth (holds : Bool) : Except WordFault String := .ok (if holds then "1" else "0")
  match operator with
  | "|" => .ok (if wordHolds a then a else if wordHolds b then b else "0")
  | "&" => .ok (if wordHolds a && wordHolds b then a else "0")
  | "<" => truth (order == .lt)
  | "<=" => truth (order != .gt)
  | "=" | "==" => truth (order == .eq)
  | "!=" => truth (order != .eq)
  | ">=" => truth (order != .lt)
  | ">" => truth (order == .gt)
  | "+" => numbers fun x y => .ok (x + y)
  | "-" => numbers fun x y => .ok (x - y)
  | "*" => numbers fun x y => .ok (x * y)
  | "/" => numbers fun x y => if y = 0 then .error .zeroDivisor else .ok (Int.tdiv x y)
  | "%" => numbers fun x y => if y = 0 then .error .zeroDivisor else .ok (Int.tmod x y)
  | _ => .ok (wordMatch a b)

mutual

/-- The value of words whose operators bind at some levels; `counts` tells whether faults of values
are told. -/
def wordsValue (fuel : Nat) (counts : Bool) (levels : List (List String)) (words : WordsAhead) :
    Except WordFault (String × WordsAhead) :=
  match fuel with
  | 0 => .error (.missing words.1)
  | fuel + 1 =>
    match levels with
    | [] => wordOperand fuel counts words
    | operators :: tighter => do
      let (value, rest) ← wordsValue fuel counts tighter words
      wordsMore fuel counts operators tighter value rest
termination_by structural fuel

/-- The value of operators of one level behind a value. -/
def wordsMore (fuel : Nat) (counts : Bool) (operators : List String) (tighter : List (List String))
    (value : String) (words : WordsAhead) : Except WordFault (String × WordsAhead) :=
  match fuel with
  | 0 => .error (.missing words.1)
  | fuel + 1 =>
    match words.2 with
    | operator :: rest =>
      if operators.contains operator then do
        let decided := (operator = "|" && wordHolds value) || (operator = "&" && !wordHolds value)
        let counts' := counts && !decided
        let (other, rest) ← wordsValue fuel counts' tighter (operator, rest)
        let value ← if counts then operated operator value other else .ok value
        wordsMore fuel counts operators tighter value rest
      else .ok (value, words)
    | [] => .ok (value, words)
termination_by structural fuel

/-- The value of an operand: a word, words in brackets, or a function of texts. -/
def wordOperand (fuel : Nat) (counts : Bool) (words : WordsAhead) :
    Except WordFault (String × WordsAhead) :=
  match fuel with
  | 0 => .error (.missing words.1)
  | fuel + 1 =>
    match words.2 with
    | [] => .error (.missing words.1)
    | "+" :: rest =>
      match rest with
      | [] => .error (.missing "+")
      | word :: rest => .ok (word, (word, rest))
    | "(" :: rest => do
      let (value, behind) ← wordsValue fuel counts wordLevels ("(", rest)
      match behind.2 with
      | ")" :: rest => .ok (value, (")", rest))
      | [] => .error (.unclosed behind.1)
      | word :: _ => .error (.unexpected word)
    | ")" :: _ => .error (.unexpected ")")
    | "length" :: rest => do
      let (text, rest) ← wordOperand fuel counts ("length", rest)
      .ok (toString (Text.decode text).length, rest)
    | "match" :: rest => do
      let (text, rest) ← wordOperand fuel counts ("match", rest)
      let (pattern, rest) ← wordOperand fuel counts rest
      .ok (wordMatch text pattern, rest)
    | "index" :: rest => do
      let (text, rest) ← wordOperand fuel counts ("index", rest)
      let (marks, rest) ← wordOperand fuel counts rest
      let before := text.toList.takeWhile fun c => !marks.toList.contains c
      .ok (if before.length = text.length then "0" else toString (before.length + 1), rest)
    | "substr" :: rest => do
      let (text, rest) ← wordOperand fuel counts ("substr", rest)
      let (start, rest) ← wordOperand fuel counts rest
      let (count, rest) ← wordOperand fuel counts rest
      match wordNumber? start, wordNumber? count with
      | some start, some count =>
        if start < 1 || count < 1 then .ok ("", rest)
        else
          .ok (String.ofList ((text.toList.drop (start.toNat - 1)).take count.toNat), rest)
      | _, _ => .ok ("", rest)
    | word :: rest => .ok (word, (word, rest))
termination_by structural fuel

end

/-- Calculates. -/
def expr : Program := fun _ arguments => do
  match if arguments.head? = some "--" then arguments.drop 1 else arguments with
  | [] => refuseUsage "missing operand" 2
  | words =>
    let result := do
      let (value, rest) ← wordsValue (16 * words.length + 16) true wordLevels ("", words)
      match rest.2 with
      | [] => .ok value
      | word :: _ => .error (WordFault.unexpected word)
    match result with
    | .ok value =>
      say 1 (value ++ "\n")
      return if wordHolds value then 0 else 1
    | .error fault =>
      report fault.text
      return fault.status

end Runbook.Shell
