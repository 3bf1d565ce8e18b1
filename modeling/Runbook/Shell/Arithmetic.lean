import Runbook.Number.Power
import Runbook.Number.Written
import Runbook.Shell.Source

/-!
# Arithmetic of scripts

Expressions of whole numbers of 64 bits with variables and assignments, in the usual order of
operators. The reader computes the value while it reads; what is not to be evaluated is read all the
same. Numbers that grow too large wrap around.
-/

namespace Runbook.Shell

/-- What is wrong with an expression. The text is that of the part in which it shows. -/
inductive SumFault where
  | expecting (what : String)
  | divisionByZero (text : List Char)
  | badNumber (text : String)
  | unset (name : String)
  | readOnly (name : String)
  | refused (message : String) (text : List Char)
  deriving DecidableEq, Repr

/-- A piece of an expression. -/
inductive SumToken where
  | number (n : Int)
  | name (text : String) (index : Option (List Char))
  | mark (text : String)
  | bad (message : String)
  deriving DecidableEq, Repr

/-- What an expression is evaluated among: its language, and the texts of variables. -/
structure SumScope where
  dialect : Dialect
  text? : String → Option String → Option String
  isKeyed : String → Bool
  failsAtUnset : Bool

/-- The text that is still to be read with the one at the start of the last token, and the variables
that were assigned, last first. -/
structure SumState where
  rest : List Char
  token : List Char
  assigned : List ((String × Option String) × Int)

/-- A computation that may fail; the assignments made before stay. -/
def Sum (α : Type) : Type := SumState → Except SumFault α × SumState

namespace Sum

/-- Computes one thing and then another one. -/
def andThen {α β : Type} (first : Sum α) (second : α → Sum β) : Sum β := fun state =>
  match first state with
  | (.ok a, state) => second a state
  | (.error fault, state) => (.error fault, state)

instance : Monad Sum where
  pure a := fun state => (.ok a, state)
  bind := andThen

instance : MonadStateOf SumState Sum where
  get := fun state => (.ok state, state)
  set state := fun _ => (.ok (), state)
  modifyGet f := fun state => (.ok (f state).1, (f state).2)

/-- Fails. -/
def fail {α : Type} (fault : SumFault) : Sum α := fun state => (.error fault, state)

end Sum

/-- The number of 64 bits that a number wraps around to. -/
def wrapped (n : Int) : Int := Int.bmod n (twoTo 64)

/-- The nearest number of 64 bits. -/
def clamped (n : Int) : Int := max (-(twoTo 63 : Int)) (min ((twoTo 63 : Int) - 1) n)

/-- The bits of a number of 64 bits. -/
def bitsOf (n : Int) : Nat := (n % twoTo 64).toNat

/-- The number for a truth value. -/
def truthNumber (b : Bool) : Int := if b then 1 else 0

/-- The value of the digits in a base that a text starts with, and the text behind them. -/
def digitsAhead (base : Nat) (s : List Char) : Nat × List Char :=
  let digits := s.takeWhile fun c => (readNat? base [c]).isSome
  ((readNat? base digits).getD 0, s.drop digits.length)

/-- The number that a text starts with and the text behind it: a zero in front of an `x` starts base
sixteen, and any other zero base eight. -/
def numberIn (s : List Char) : Nat × List Char :=
  match s with
  | '0' :: x :: c :: rest =>
    if (x == 'x' || x == 'X') && (readNat? 16 [c]).isSome then digitsAhead 16 (c :: rest)
    else digitsAhead 8 ('0' :: x :: c :: rest)
  | '0' :: rest => digitsAhead 8 ('0' :: rest)
  | _ => digitsAhead 10 s

/-- The text without blanks in front. -/
def behindBlanks (s : List Char) : List Char :=
  s.dropWhile fun c => c == ' ' || c == '\t' || c == '\n'

/-- The number that the text of a variable spells between blanks. -/
def wholeNumber? (base? : Option Nat) (s : List Char) : Option Int :=
  let isSpace (c : Char) : Bool := c == ' ' || ('\t' ≤ c && c ≤ '\r')
  let bare := s.dropWhile isSpace
  let (negative, digits) : Bool × List Char :=
    match bare with
    | '-' :: rest => (true, rest)
    | '+' :: rest => (false, rest)
    | rest => (false, rest)
  let (n, behind) := base?.elim (numberIn digits) fun base => digitsAhead base digits
  let isEmpty := !digits.head?.any Char.isDigit
  if isEmpty then if base?.isNone && bare.isEmpty then some 0 else none
  else if behind.all isSpace then some (if negative then -(n : Int) else n)
  else none

/-- The marks of the common language, longer ones first. -/
def commonMarks : List String :=
  ["<<=", ">>=", "&&", "||", "==", "!=", "<=", ">=", "<<", ">>", "+=", "-=", "*=", "/=", "%=", "&=",
   "^=", "|=", "+", "-", "*", "/", "%", "<", ">", "&", "|", "^", "!", "~", "?", ":", "(", ")", "="]

/-- The marks of a dialect, longer ones first. -/
def sumMarks (dialect : Dialect) : List String :=
  match dialect with
  | .common => commonMarks
  | .extended => ["<<=", ">>=", "**", "++", "--", ","] ++ commonMarks

/-- The value of a digit of a base up to 64. -/
def wideDigit? (base : Nat) (c : Char) : Option Nat :=
  let n :=
    if c.isDigit then c.toNat - 48
    else if 'a' ≤ c && c ≤ 'z' then c.toNat - 87
    else if 'A' ≤ c && c ≤ 'Z' then if base ≤ 36 then c.toNat - 55 else c.toNat - 29
    else if c == '@' then 62
    else if c == '_' then 63
    else 64
  if n < base then some n else none

/-- The number that a word of the extended language spells. -/
def wideNumber (word : List Char) : SumToken :=
  let value (base : Nat) (digits : List Char) : SumToken :=
    match digits.mapM (wideDigit? base) with
    | some ns => .number (wrapped (ns.foldl (fun n d => n * base + d) 0 : Nat))
    | none => .bad "value too great for base"
  match word with
  | '0' :: 'x' :: digits | '0' :: 'X' :: digits => value 16 digits
  | '0' :: digits => value 8 digits
  | _ =>
    let base := word.takeWhile (· != '#')
    if base.length = word.length then value 10 word
    else
      let n := (readNat? 10 base).getD 0
      let digits := word.drop (base.length + 1)
      if n < 2 || 64 < n then .bad "invalid arithmetic base"
      else if digits.isEmpty then .bad "invalid integer constant" else value n digits

/-- The text of an index up to its bracket, and the text behind it. -/
def indexAhead (depth : Nat) : List Char → List Char × List Char
  | [] => ([], [])
  | c :: rest =>
    let go (depth : Nat) : List Char × List Char :=
      (c :: (indexAhead depth rest).1, (indexAhead depth rest).2)
    if c == ']' then
      match depth with
      | 0 => ([], rest)
      | depth + 1 => go depth
    else if c == '[' then go (depth + 1) else go depth

/-- The token that a text without blanks in front starts with, and the text behind it. -/
def sumToken (dialect : Dialect) (s : List Char) : SumToken × List Char :=
  match s with
  | [] => (.mark "", [])
  | c :: _ =>
    if c.isDigit then
      match dialect with
      | .common =>
        let (n, rest) := numberIn s
        (.number (clamped n), rest)
      | .extended =>
        let word := s.takeWhile fun c => isNameChar c || c == '#' || c == '@'
        (wideNumber word, s.drop word.length)
    else if startsName c then
      let name := s.takeWhile isNameChar
      match dialect, s.drop name.length with
      | .extended, '[' :: rest =>
        let (index, rest) := indexAhead 0 rest
        (.name (String.ofList name) (some index), rest)
      | _, rest => (.name (String.ofList name) none, rest)
    else
      match (sumMarks dialect).find? fun text => text.toList.isPrefixOf s with
      | some text => (.mark text, s.drop text.length)
      | none => (.bad "", s)

/-- The token ahead with the text that it starts at and the text behind it. -/
def peekSum (scope : SumScope) : Sum (SumToken × List Char × List Char) := do
  let here := behindBlanks (← get).rest
  let (token, rest) := sumToken scope.dialect here
  return (token, here, rest)

/-- Goes on behind a token. -/
def advanceSum (here rest : List Char) : Sum Unit := modify fun state =>
  { state with rest, token := if here.isEmpty then state.token else here }

/-- Takes a mark if it is next. -/
def acceptSum (scope : SumScope) (text : String) : Sum Bool := do
  let (token, here, rest) ← peekSum scope
  if token = .mark text then
    advanceSum here rest
    return true
  else return false

/-- The operators of one level, from the weakest to the strongest. -/
def operatorLevels : List (List String) :=
  [["|"], ["^"], ["&"], ["==", "!="], ["<=", ">=", "<", ">"], ["<<", ">>"], ["+", "-"],
   ["*", "/", "%"]]

/-- The operators that assign. -/
def assigningMarks : List String :=
  ["=", "*=", "/=", "%=", "+=", "-=", "<<=", ">>=", "&=", "^=", "|="]

/-- What an operator gives; nothing for a division by zero. -/
def operate? (operator : String) (a b : Int) : Option Int :=
  match operator with
  | "==" => some (truthNumber (a == b))
  | "!=" => some (truthNumber (a != b))
  | "<=" => some (truthNumber (a ≤ b))
  | ">=" => some (truthNumber (b ≤ a))
  | "<" => some (truthNumber (a < b))
  | ">" => some (truthNumber (b < a))
  | "+" => some (wrapped (a + b))
  | "-" => some (wrapped (a - b))
  | "*" => some (wrapped (a * b))
  | "/" => if b = 0 then none else some (wrapped (a.tdiv b))
  | "%" => if b = 0 then none else some (a.tmod b)
  | "<<" => some (wrapped (a * twoTo (bitsOf b % 64)))
  | ">>" => some (a / twoTo (bitsOf b % 64))
  | "|" => some (wrapped (bitsOf a ||| bitsOf b : Nat))
  | "^" => some (wrapped (bitsOf a ^^^ bitsOf b : Nat))
  | "&" => some (wrapped (bitsOf a &&& bitsOf b : Nat))
  | _ => some b

/-- What an operator gives for two operands, the second of which starts at a text. -/
def operate (operator : String) (a b : Int) (second : List Char) : Sum Int :=
  match operate? operator a b with
  | some n => return n
  | none => Sum.fail (.divisionByZero (behindBlanks second))

/-- The text that a fault is told with: that at the next token, or else at the last one. -/
def textAtFault (here : List Char) : Sum (List Char) := do
  let state ← get
  return if here.isEmpty then state.token else here

/-- Fails at a token that is no operand. -/
def expectedOperand {α : Type} (scope : SumScope) (token : SumToken) (here : List Char) :
    Sum α := do
  let text ← textAtFault here
  match scope.dialect, token with
  | .common, _ => Sum.fail (.expecting "primary")
  | .extended, .bad message =>
    Sum.fail (.refused (if message = "" then "syntax error: operand expected" else message) text)
  | .extended, _ => Sum.fail (.refused "syntax error: operand expected" text)

/-- Fails at a token that does not fit behind an operand. -/
def expectedEnd {α : Type} (scope : SumScope) (token : SumToken) (here : List Char) : Sum α :=
  match scope.dialect, token with
  | .common, _ => Sum.fail (.expecting "EOF")
  | .extended, .bad _ => Sum.fail (.refused "syntax error: invalid arithmetic operator" here)
  | .extended, .mark text =>
    if assigningMarks.contains text then
      Sum.fail (.refused "attempted assignment to non-variable" here)
    else Sum.fail (.refused "syntax error in expression" here)
  | .extended, _ => Sum.fail (.refused "syntax error in expression" here)

mutual

/-- Computes expressions divided by commas, where the language has them. -/
def sumList (fuel : Nat) (scope : SumScope) (skipped : Bool) : Sum Int :=
  match fuel with
  | 0 => Sum.fail (.expecting "primary")
  | fuel + 1 => do
    let n ← sumAssignment fuel scope skipped
    match scope.dialect with
    | .common => return n
    | .extended => if ← acceptSum scope "," then sumList fuel scope skipped else return n
termination_by structural fuel

/-- Computes an expression that may assign. -/
def sumAssignment (fuel : Nat) (scope : SumScope) (skipped : Bool) : Sum Int :=
  match fuel with
  | 0 => Sum.fail (.expecting "primary")
  | fuel + 1 => do
    let before ← get
    let (token, here, rest) ← peekSum scope
    match token with
    | .name name index =>
      advanceSum here rest
      let (mark, markHere, behind) ← peekSum scope
      match mark with
      | .mark operator =>
        if assigningMarks.contains operator then
          advanceSum markHere behind
          let n ← sumAssignment fuel scope skipped
          if skipped then return n
          else
            let key ← sumIndex fuel scope name index
            let value ←
              if operator = "=" then pure n
              else
                let old ← sumVariable fuel scope name key
                operate (String.ofList (operator.toList.dropLast)) old n behind
            sumAssign name key value
            return value
        else
          set before
          sumChoice fuel scope skipped
      | _ =>
        set before
        sumChoice fuel scope skipped
    | _ => sumChoice fuel scope skipped
termination_by structural fuel

/-- Computes a choice between two expressions. -/
def sumChoice (fuel : Nat) (scope : SumScope) (skipped : Bool) : Sum Int :=
  match fuel with
  | 0 => Sum.fail (.expecting "primary")
  | fuel + 1 => do
    let a ← sumEither fuel scope skipped
    if ← acceptSum scope "?" then
      let (token, here, _) ← peekSum scope
      if scope.dialect = .extended && (token = .mark ":" || token = .mark "") then
        Sum.fail (.refused "expression expected" (← textAtFault here))
      let b ← sumList fuel scope (skipped || a = 0)
      if !(← acceptSum scope ":") then
        match scope.dialect with
        | .common => Sum.fail (.expecting "':'")
        | .extended =>
          let (_, here, _) ← peekSum scope
          let text ← textAtFault here
          Sum.fail (.refused "\x60:' expected for conditional expression" text)
      let c ← sumChoice fuel scope (skipped || a != 0)
      return if a != 0 then b else c
    else return a
termination_by structural fuel

/-- Computes alternatives. -/
def sumEither (fuel : Nat) (scope : SumScope) (skipped : Bool) : Sum Int :=
  match fuel with
  | 0 => Sum.fail (.expecting "primary")
  | fuel + 1 => do
    let a ← sumBoth fuel scope skipped
    if ← acceptSum scope "||" then
      let b ← sumEither fuel scope (skipped || a != 0)
      return truthNumber (a != 0 || b != 0)
    else return a
termination_by structural fuel

/-- Computes what has to hold together. -/
def sumBoth (fuel : Nat) (scope : SumScope) (skipped : Bool) : Sum Int :=
  match fuel with
  | 0 => Sum.fail (.expecting "primary")
  | fuel + 1 => do
    let a ← sumLevels fuel scope skipped operatorLevels
    if ← acceptSum scope "&&" then
      let b ← sumBoth fuel scope (skipped || a = 0)
      return truthNumber (a != 0 && b != 0)
    else return a
termination_by structural fuel

/-- Computes an expression of the operators of some levels. -/
def sumLevels (fuel : Nat) (scope : SumScope) (skipped : Bool) (levels : List (List String)) :
    Sum Int :=
  match fuel with
  | 0 => Sum.fail (.expecting "primary")
  | fuel + 1 => do
    match levels with
    | [] => sumPower fuel scope skipped
    | level :: stronger =>
      let first ← sumLevels fuel scope skipped stronger
      sumOperations fuel scope skipped level stronger first
termination_by structural fuel

/-- Computes the operations of one level behind their first operand. -/
def sumOperations (fuel : Nat) (scope : SumScope) (skipped : Bool) (level : List String)
    (stronger : List (List String)) (first : Int) : Sum Int :=
  match fuel with
  | 0 => Sum.fail (.expecting "primary")
  | fuel + 1 => do
    let (token, here, rest) ← peekSum scope
    match token with
    | .mark operator =>
      if level.contains operator then
        advanceSum here rest
        let second ← sumLevels fuel scope skipped stronger
        let n ← if skipped then pure second else operate operator first second rest
        sumOperations fuel scope skipped level stronger n
      else return first
    | _ => return first
termination_by structural fuel

/-- Computes a power, where the language has them. -/
def sumPower (fuel : Nat) (scope : SumScope) (skipped : Bool) : Sum Int :=
  match fuel with
  | 0 => Sum.fail (.expecting "primary")
  | fuel + 1 => do
    let a ← sumOperand fuel scope skipped
    let raises ← if scope.dialect = .extended then acceptSum scope "**" else pure false
    if raises then
      let b ← sumPower fuel scope skipped
      if b < 0 then Sum.fail (.refused "exponent less than 0" (← get).token)
      else return wrapped (Int.pow a b.toNat)
    else return a
termination_by structural fuel

/-- Computes a number, a variable, a signed operand or an expression in parentheses. -/
def sumOperand (fuel : Nat) (scope : SumScope) (skipped : Bool) : Sum Int :=
  match fuel with
  | 0 => Sum.fail (.expecting "primary")
  | fuel + 1 => do
    let (token, here, rest) ← peekSum scope
    match token with
    | .number n =>
      advanceSum here rest
      return n
    | .name name index =>
      advanceSum here rest
      let step : Int ←
        if scope.dialect = .common then pure 0
        else if ← acceptSum scope "++" then pure 1
        else if ← acceptSum scope "--" then pure (-1)
        else pure 0
      if skipped then return 0
      else
        let key ← sumIndex fuel scope name index
        let n ← sumVariable fuel scope name key
        if step != 0 then sumAssign name key (wrapped (n + step))
        return n
    | .mark "(" =>
      advanceSum here rest
      let n ← sumList fuel scope skipped
      if ← acceptSum scope ")" then return n
      else
        match scope.dialect with
        | .common => Sum.fail (.expecting "')'")
        | .extended => Sum.fail (.refused "missing \x60)'" (← get).token)
    | .mark "-" =>
      advanceSum here rest
      return wrapped (-(← sumOperand fuel scope skipped))
    | .mark "+" =>
      advanceSum here rest
      sumOperand fuel scope skipped
    | .mark "!" =>
      advanceSum here rest
      return truthNumber ((← sumOperand fuel scope skipped) == 0)
    | .mark "~" =>
      advanceSum here rest
      return -(← sumOperand fuel scope skipped) - 1
    | .mark "++" => sumStep fuel scope skipped here rest 1
    | .mark "--" => sumStep fuel scope skipped here rest (-1)
    | token => expectedOperand scope token here
termination_by structural fuel

/-- Computes a variable that is stepped first; in front of anything else the mark is two signs. -/
def sumStep (fuel : Nat) (scope : SumScope) (skipped : Bool) (here rest : List Char) (step : Int) :
    Sum Int :=
  match fuel with
  | 0 => Sum.fail (.expecting "primary")
  | fuel + 1 => do
    match sumToken scope.dialect (behindBlanks rest) with
    | (.name name index, behind) =>
      advanceSum (behindBlanks rest) behind
      if skipped then return 0
      else
        let key ← sumIndex fuel scope name index
        let n ← sumVariable fuel scope name key
        sumAssign name key (wrapped (n + step))
        return wrapped (n + step)
    | _ =>
      advanceSum (here.drop 1) rest
      sumOperand fuel scope skipped
termination_by structural fuel

/-- The key that an index stands for: its text, or its value. -/
def sumIndex (fuel : Nat) (scope : SumScope) (name : String) (index : Option (List Char)) :
    Sum (Option String) :=
  match fuel with
  | 0 => Sum.fail (.expecting "primary")
  | fuel + 1 => do
    match index with
    | none => return none
    | some text =>
      if scope.isKeyed name then return some (String.ofList text)
      else return some (decimalText (← sumText fuel scope text))
termination_by structural fuel

/-- The value of a text that is an expression of its own. -/
def sumText (fuel : Nat) (scope : SumScope) (text : List Char) : Sum Int :=
  match fuel with
  | 0 => Sum.fail (.expecting "primary")
  | fuel + 1 => do
    if (behindBlanks text).isEmpty then return 0
    else
      let before ← get
      set { before with rest := text, token := text }
      let n ← sumList fuel scope false
      let (token, here, _) ← peekSum scope
      if token != .mark "" then expectedEnd scope token here
      modify fun after => { before with assigned := after.assigned }
      return n
termination_by structural fuel

/-- The value of a variable. -/
def sumVariable (fuel : Nat) (scope : SumScope) (name : String) (key : Option String) : Sum Int :=
  match fuel with
  | 0 => Sum.fail (.expecting "primary")
  | fuel + 1 => do
    match (← get).assigned.lookup (name, key) with
    | some n => return n
    | none =>
      let text? := scope.text? name key
      if scope.failsAtUnset && text?.isNone then Sum.fail (.unset name)
      else
        let text := (text?.getD "").toList
        match scope.dialect with
        | .common =>
          match wholeNumber? none text with
          | some n =>
            if clamped n = n then return n else Sum.fail (.badNumber (String.ofList text))
          | none => Sum.fail (.badNumber (String.ofList text))
        | .extended => sumText fuel scope text
termination_by structural fuel

/-- Gives a variable a value. -/
def sumAssign (name : String) (key : Option String) (value : Int) : Sum Unit :=
  modify fun state => { state with assigned := ((name, key), value) :: state.assigned }

end

/-- The value of an expression with the assignments that it makes, in order. -/
def evaluateSum (scope : SumScope) (s : List Char) :
    Except SumFault Int × List ((String × Option String) × Int) :=
  let fuel := 32 * (s.length + 64)
  let compute : Sum Int := do
    if scope.dialect = .extended && (behindBlanks s).isEmpty then return 0
    else
      let n ← sumList fuel scope false
      let (token, here, _) ← peekSum scope
      if token != .mark "" then expectedEnd scope token here
      return n
  let (result, state) := compute ⟨s, [], []⟩
  (result, state.assigned.reverse)

/-- The words for a fault in an expression. -/
def SumFault.message (dialect : Dialect) (expression : String) : SumFault → String
  | expecting what =>
    "arithmetic expression: expecting " ++ what ++ ": \x22" ++ expression ++ "\x22"
  | divisionByZero text =>
    match dialect with
    | .common => "arithmetic expression: division by zero: \x22" ++ expression ++ "\x22"
    | .extended =>
      expression ++ ": division by 0 (error token is \x22" ++ String.ofList text ++ "\x22)"
  | badNumber text => "Illegal number: " ++ text
  | unset name =>
    match dialect with
    | .common => name ++ ": parameter not set"
    | .extended => name ++ ": unbound variable"
  | readOnly name => name ++ ": readonly variable"
  | refused message text =>
    expression ++ ": " ++ message ++ " (error token is \x22" ++ String.ofList text ++ "\x22)"

end Runbook.Shell
