import Runbook.Shell.Builtin.Options

/-!
# Conditions

Commands that test texts, numbers and files. The operators that join conditions bind as in
arithmetic; a word is an operator only where it fits.
-/

namespace Runbook.Shell

/-- The conditions about one text. -/
def unaryConditions : List String :=
  ["-n", "-z", "-e", "-a", "-d", "-f", "-r", "-w", "-x", "-s", "-t", "-L", "-h", "-p", "-b", "-c",
   "-S", "-u", "-g", "-k", "-O", "-G"]

/-- The conditions about two texts. -/
def binaryConditions : List String :=
  ["=", "!=", "<", ">", "-eq", "-ne", "-lt", "-le", "-gt", "-ge", "-nt", "-ot", "-ef"]

/-- Whether a word is a condition about one text in a dialect. -/
def isUnary (dialect : Dialect) (word : String) : Bool :=
  match dialect with
  | .common => unaryConditions.contains word && word != "-a"
  | .extended => unaryConditions.contains word || ["-v", "-o", "-R", "-N"].contains word

/-- Whether a word is a condition about two texts in a dialect. -/
def isBinary (dialect : Dialect) (word : String) : Bool :=
  binaryConditions.contains word || (dialect = .extended && word = "==")

/-- Whether a parameter, or a text of a list, is set. -/
def isSet (text : String) : Act Bool := do
  let machine ← get
  let (name, index) := splitKey text
  let (name, key) := machine.meant name index
  match key, machine.movingTexts? name, (machine.bindings.get name).content with
  | none, _, _ => return (machine.parameter? name).isSome
  | some key, some texts, _ =>
    if meansAll key then return !texts.isEmpty
    else return (← indexNumber key) < texts.length
  | some key, none, some (.keyed texts) =>
    return if meansAll key then !texts.isEmpty else (texts.lookup key).isSome
  | some key, none, some content =>
    if meansAll key then return !content.texts.isEmpty
    else return (content.at? (← indexNumber key)).isSome
  | some _, none, none => return false

/-- Whether a condition about one text holds. -/
def holdsUnary (operator text : String) : Act Bool := do
  let machine ← get
  match operator with
  | "-n" => return text != ""
  | "-z" => return text = ""
  | "-v" => isSet text
  | "-R" => return (machine.bindings.get text).refers && (machine.bindings.get text).content.isSome
  | "-o" => return ((optionsIn machine.dialect).lookup text).any machine.isOn
  | "-t" => return false
  | _ =>
    let path := diskPath text
    if path.startsWith "/dev/" then
      let isThere :=
        (Host.State.descriptorNamed? path).isSome || (Host.State.deviceNamed? path).isSome
      return isThere && ["-e", "-a", "-r", "-w", "-c"].contains operator
    else
      let entry := ((← theDisk).stat machine.directory path).toOption.map (·.2)
      let isFile : DiskEntry → Bool
        | .file _ _ => true
        | .directory => false
      return match operator with
        | "-e" | "-a" | "-r" | "-w" | "-O" | "-G" => entry.isSome
        | "-d" => entry = some .directory
        | "-f" => entry.any isFile
        | "-s" => entry.any fun e => e != .file [] true && e != .file [] false
        | "-x" => entry.any fun
          | .file _ executable => executable
          | .directory => true
        | _ => false

/-- The number that a text spells in a condition. -/
def conditionNumber (text : String) : Act Int := do
  match wholeNumber? (some 10) text.toList with
  | some n => return n
  | none =>
    match (← get).dialect with
    | .common => abandon 2 ("Illegal number: " ++ text)
    | .extended =>
      complainIn (text ++ ": integer expression expected")
      setStatus 2
      throw .fault

/-- Whether a condition about two texts holds. -/
def holdsBinary (first operator second : String) : Act Bool := do
  let numbers (holds : Int → Int → Bool) : Act Bool := do
    let a ← conditionNumber first
    return holds a (← conditionNumber second)
  match operator with
  | "=" | "==" => return first = second
  | "!=" => return first != second
  | "<" => return first < second
  | ">" => return second < first
  | "-eq" => numbers (· == ·)
  | "-ne" => numbers (· != ·)
  | "-lt" => numbers (· < ·)
  | "-le" => numbers (· ≤ ·)
  | "-gt" => numbers fun a b => b < a
  | "-ge" => numbers fun a b => b ≤ a
  | _ =>
    let machine ← get
    let disk ← theDisk
    let place (text : String) : Option Location :=
      (disk.stat machine.directory (diskPath text)).toOption.map (·.1)
    return match operator with
      | "-ef" => (place first).isSome && place first = place second
      | "-nt" => (place first).isSome && (place second).isNone
      | "-ot" => (place first).isNone && (place second).isSome
      | _ => false

/-- Fails because the words are no condition. -/
def refuseCondition {α : Type} (word text : String) : Act α :=
  abandonIn 2 (if word = "" then text else word ++ ": " ++ text)

/-- What a word is where it stands. -/
inductive ConditionWord where
  | ended
  | operand
  | unary
  | binary
  | not
  | and
  | or
  | opening
  | closing
  deriving DecidableEq, Repr

/-- What the first of some words is: a word that is an operator elsewhere may be an operand. -/
def conditionWord : List String → ConditionWord
  | [] => .ended
  | word :: rest =>
    if isUnary .common word then
      match rest with
      | [] => .operand
      | [_] => .unary
      | next :: _ :: _ =>
        if isBinary .common next || ["-a", "-o"].contains next then .operand else .unary
    else if isBinary .common word then .binary
    else if word = "!" then .not
    else if word = "-a" then .and
    else if word = "-o" then .or
    else if word = "(" then if rest.isEmpty then .operand else .opening
    else if word = ")" then .closing
    else .operand

mutual

/-- Whether alternatives hold; gives the words from the last one that was used. -/
def holdsEither (fuel : Nat) (words : List String) : Act (Bool × List String) :=
  match fuel with
  | 0 => return (false, [])
  | fuel + 1 => do
    let (a, used) ← holdsBoth fuel words
    if conditionWord (used.drop 1) = .or then
      let (b, used) ← holdsEither fuel (used.drop 2)
      return (a || b, used)
    else return (a, used)
termination_by structural fuel

/-- Whether conditions hold together; gives the words from the last one that was used. -/
def holdsBoth (fuel : Nat) (words : List String) : Act (Bool × List String) :=
  match fuel with
  | 0 => return (false, [])
  | fuel + 1 => do
    let (a, used) ← holdsNot fuel words
    if conditionWord (used.drop 1) = .and then
      let (b, used) ← holdsBoth fuel (used.drop 2)
      return (a && b, used)
    else return (a, used)
termination_by structural fuel

/-- Whether a condition holds that may be turned around; gives the words from the last one that was
used. -/
def holdsNot (fuel : Nat) (words : List String) : Act (Bool × List String) :=
  match fuel with
  | 0 => return (false, [])
  | fuel + 1 => do
    match conditionWord words with
    | .not =>
      if words.length = 1 then return (true, words)
      else
        let (a, used) ← holdsNot fuel (words.drop 1)
        return (!a, used)
    | _ => holdsOne fuel words
termination_by structural fuel

/-- Whether a single condition holds; gives the words from the last one that was used. -/
def holdsOne (fuel : Nat) (words : List String) : Act (Bool × List String) :=
  match fuel with
  | 0 => return (false, [])
  | fuel + 1 => do
    match conditionWord words, words with
    | .ended, _ => return (false, [])
    | .opening, _ :: rest =>
      if conditionWord rest = .closing then return (false, rest)
      else
        let (a, used) ← holdsEither fuel rest
        if conditionWord (used.drop 1) = .closing then return (a, used.drop 1)
        else refuseCondition "" "closing paren expected"
    | .unary, operator :: text :: rest => return (← holdsUnary operator text, text :: rest)
    | _, first :: operator :: rest =>
      if conditionWord (operator :: rest) = .binary then
        match rest with
        | second :: rest => return (← holdsBinary first operator second, second :: rest)
        | [] => refuseCondition operator "argument expected"
      else return (first != "", words)
    | _, first :: _ => return (first != "", words)
    | _, [] => return (false, [])
termination_by structural fuel

end

mutual

/-- Whether alternatives of the extended language hold; gives the words behind them. -/
def extendedEither (fuel : Nat) (words : List String) : Act (Bool × List String) :=
  match fuel with
  | 0 => return (false, [])
  | fuel + 1 => do
    let (a, rest) ← extendedBoth fuel words
    match rest with
    | "-o" :: rest =>
      let (b, rest) ← extendedEither fuel rest
      return (a || b, rest)
    | _ => return (a, rest)
termination_by structural fuel

/-- Whether conditions of the extended language hold together; gives the words behind them. -/
def extendedBoth (fuel : Nat) (words : List String) : Act (Bool × List String) :=
  match fuel with
  | 0 => return (false, [])
  | fuel + 1 => do
    let (a, rest) ← extendedOne fuel words
    match rest with
    | "-a" :: rest =>
      let (b, rest) ← extendedBoth fuel rest
      return (a && b, rest)
    | _ => return (a, rest)
termination_by structural fuel

/-- Whether a single condition of the extended language holds; gives the words behind it. -/
def extendedOne (fuel : Nat) (words : List String) : Act (Bool × List String) :=
  match fuel with
  | 0 => return (false, [])
  | fuel + 1 => do
    match words with
    | [] => refuseCondition "" "argument expected"
    | "!" :: rest =>
      let (a, rest) ← extendedOne fuel rest
      return (!a, rest)
    | "(" :: rest =>
      let (a, rest) ← extendedEither fuel rest
      match rest with
      | ")" :: rest => return (a, rest)
      | [] => refuseCondition "" "\x60)' expected"
      | word :: _ => refuseCondition "" ("\x60)' expected, found " ++ word)
    | first :: rest =>
      let dyadic? : Option (String × String × List String) :=
        match rest with
        | operator :: second :: rest =>
          if isBinary .extended operator then some (operator, second, rest) else none
        | _ => none
      match dyadic?, rest with
      | some (operator, second, rest), _ => return (← holdsBinary first operator second, rest)
      | none, text :: behind =>
        if isUnary .extended first then return (← holdsUnary first text, behind)
        else return (first != "", rest)
      | none, [] => return (first != "", [])
termination_by structural fuel

end

/-- Whether the condition that some words spell holds. -/
def holdsWords (words : List String) : Act Bool := do
  let fuel := 4 * words.length + 4
  match (← get).dialect with
  | .common =>
    let (holds, used) ← holdsEither fuel words
    match used with
    | word :: _ :: _ => refuseCondition word "unexpected operator"
    | _ => return holds
  | .extended =>
    let (holds, rest) ← extendedEither fuel words
    match rest with
    | [] => return holds
    | word :: _ =>
      if word.startsWith "-" then
        refuseCondition "" ("syntax error: \x60" ++ word ++ "' unexpected")
      else refuseCondition "" "too many arguments"

/-- Whether the condition of so few words that their number decides holds. -/
def holdsFew (fuel : Nat) (words : List String) : Act Bool :=
  match fuel with
  | 0 => return false
  | fuel + 1 => do
    let dialect := (← get).dialect
    match words with
    | [] => return false
    | [text] => return text != ""
    | [first, operator, second] =>
      if isBinary dialect operator then holdsBinary first operator second
      else if dialect = .extended && operator = "-a" then return first != "" && second != ""
      else if dialect = .extended && operator = "-o" then return first != "" || second != ""
      else if first = "!" then return !(← holdsFew fuel [operator, second])
      else if first = "(" && second = ")" then holdsFew fuel [operator]
      else if dialect = .extended then refuseCondition operator "binary operator expected"
      else holdsWords words
    | [a, b, c, d] =>
      if a = "!" then return !(← holdsFew fuel [b, c, d])
      else if a = "(" && d = ")" then holdsFew fuel [b, c]
      else holdsWords words
    | [a, b] =>
      match dialect with
      | .common => holdsWords words
      | .extended =>
        if a = "!" then return b = ""
        else if isUnary dialect a then holdsUnary a b
        else refuseCondition a "unary operator expected"
    | _ => holdsWords words

/-- Tests a condition. -/
def test : Utility := fun arguments => do
  return if ← holdsFew (arguments.length + 1) arguments then 0 else 1

/-- Tests a condition in brackets. -/
def bracket : Utility := fun arguments => do
  if arguments.getLast? = some "]" then test arguments.dropLast
  else
    match (← get).dialect with
    | .common => abandon 2 "missing ]"
    | .extended => abandonIn 2 "missing \x60]'"

end Runbook.Shell
