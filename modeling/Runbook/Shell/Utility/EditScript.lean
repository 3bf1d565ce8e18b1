import Runbook.Shell.Regex
import Runbook.Shell.Utility.Basic

/-!
# Scripts of edits

A script of edits is one letter per edit, in blocks or not. An edit may be kept to some lines: to
one, to those up to another, to those that hold an expression, or to all the others.
-/

namespace Runbook.Shell

/-- Lines that an edit is kept to. -/
inductive LineAddress where
  | number (n : Nat)
  | step (first step : Nat)
  | last
  | found (expression : Regex) (foldsCase : Bool)
  | again
  | further (n : Nat)
  | multiple (n : Nat)
  deriving Inhabited

/-- A piece of the text that replaces a match: text, a group, or a change of case for what
follows. -/
inductive ReplacePart where
  | text (s : List Char)
  | group (n : Nat)
  | recase (letter : Char)

/-- What a replacement does with its matches. -/
structure Substitution where
  expression : Option Regex
  foldsCase : Bool
  parts : List ReplacePart
  all : Bool
  nth : Nat
  prints : Bool
  file : Option String

/-- An edit. -/
inductive Edit where
  | openBlock (finish : Nat)
  | closeBlock
  | number
  | append (text : String)
  | insert (text : String)
  | change (text : String)
  | branch (label : String)
  | branchIf (label : String) (when' : Bool)
  | label (name : String)
  | delete
  | deleteFirst
  | takeHold (adds : Bool)
  | hold (adds : Bool)
  | list
  | next
  | join
  | print
  | printFirst
  | quit (prints : Bool) (status : Nat)
  | readFile (path : String)
  | writeFile (path : String)
  | substitute (s : Substitution)
  | exchange
  | translate (pairs : List (Char × Char))
  | clear
  | nothing

/-- An edit with the lines that it is kept to. -/
structure EditStep where
  first : Option LineAddress
  second : Option LineAddress
  negated : Bool
  edit : Edit

/-- Where a script is read: the text left, the number of characters taken, and whether expressions
are extended ones. -/
structure EditSource where
  rest : List Char
  taken : Nat
  style : RegexStyle

/-- Reading a script; what is wrong is told with the number of the character. -/
abbrev EditReading (α : Type) := StateT EditSource (Except (Nat × String)) α

/-- Fails with a message. -/
def refuseEdit {α : Type} (message : String) : EditReading α := do
  throw ((← get).taken, message)

/-- Takes the next character. -/
def nextEditChar : EditReading (Option Char) := do
  let source ← get
  match source.rest with
  | [] => return none
  | c :: rest =>
    set { source with rest, taken := source.taken + 1 }
    return some c

/-- Passes over characters in front. -/
def passEditChars (isPassed : Char → Bool) : EditReading Unit := modify fun source =>
  let front := source.rest.takeWhile isPassed
  { source with rest := source.rest.drop front.length, taken := source.taken + front.length }

/-- Takes the number in front. -/
def editNumber : EditReading (Option Nat) := do
  let digits := (← get).rest.takeWhile Char.isDigit
  modify fun source =>
    { source with rest := source.rest.drop digits.length, taken := source.taken + digits.length }
  return readNat? 10 digits

/-- Takes text up to a mark that is not protected; the protection of the mark itself is removed. -/
def untilMark (fuel : Nat) (mark : Char) (inSet : Bool) : EditReading (Option (List Char)) :=
  match fuel with
  | 0 => return none
  | fuel + 1 => do
    match ← nextEditChar with
    | none => return none
    | some c =>
      if c == mark && !inSet then return some []
      else if c == '\\' then
        match ← nextEditChar with
        | none => return none
        | some d =>
          let kept := if d == mark then [d] else if d == 'n' then ['\\', 'n'] else ['\\', d]
          return (← untilMark fuel mark inSet).map (kept ++ ·)
      else if c == '[' && !inSet then
        let closes := ((← get).rest.drop 1).contains ']'
        return (← untilMark fuel mark closes).map (c :: ·)
      else if c == ']' && inSet then return (← untilMark fuel mark false).map (c :: ·)
      else return (← untilMark fuel mark inSet).map (c :: ·)

/-- The expression that a text spells; an empty one stands for the last one used. -/
def editRegex (text : List Char) : EditReading (Option Regex) := do
  if text.isEmpty then return none
  else
    match regexOf? (← get).style text with
    | some regex => return some regex
    | none => refuseEdit "Invalid preceding regular expression"

/-- Takes an address in front. -/
def editAddress (isSecond : Bool) : EditReading (Option LineAddress) := do
  let source ← get
  let fuel := source.rest.length + 1
  let expression (mark : Char) : EditReading (Option LineAddress) := do
    match ← untilMark fuel mark false with
    | none => refuseEdit "unterminated address regex"
    | some text =>
      let folds := (← get).rest.head? = some 'I'
      if folds then let _ ← nextEditChar
      match ← editRegex text with
      | some regex => return some (.found regex folds)
      | none => return some .again
  match source.rest with
  | '$' :: _ =>
    let _ ← nextEditChar
    return some .last
  | '/' :: _ =>
    let _ ← nextEditChar
    expression '/'
  | '\\' :: mark :: _ =>
    let _ ← nextEditChar
    let _ ← nextEditChar
    expression mark
  | '+' :: _ =>
    if isSecond then
      let _ ← nextEditChar
      return some (.further ((← editNumber).getD 0))
    else return none
  | '~' :: _ =>
    if isSecond then
      let _ ← nextEditChar
      return some (.multiple ((← editNumber).getD 0))
    else return none
  | c :: _ =>
    if c.isDigit then
      let n := (← editNumber).getD 0
      match (← get).rest with
      | '~' :: _ =>
        let _ ← nextEditChar
        return some (.step n ((← editNumber).getD 0))
      | _ => return some (.number n)
    else return none
  | [] => return none

/-- The parts of a text that replaces matches. -/
def replaceParts : List Char → List ReplacePart
  | [] => []
  | '&' :: rest => .group 0 :: replaceParts rest
  | '\\' :: c :: rest =>
    if c.isDigit then .group (c.toNat - 48) :: replaceParts rest
    else if "LUElu".toList.contains c then .recase c :: replaceParts rest
    else
      let shown :=
        match c with
        | 'n' => '\n'
        | 't' => '\t'
        | c => c
      .text [shown] :: replaceParts rest
  | c :: rest => .text [c] :: replaceParts rest

/-- Takes the flags behind a replacement. -/
def substitutionFlags (fuel : Nat) (s : Substitution) : EditReading Substitution :=
  match fuel with
  | 0 => return s
  | fuel + 1 => do
    match (← get).rest with
    | 'g' :: _ =>
      let _ ← nextEditChar
      substitutionFlags fuel { s with all := true }
    | 'p' :: _ =>
      let _ ← nextEditChar
      substitutionFlags fuel { s with prints := true }
    | 'i' :: _ | 'I' :: _ =>
      let _ ← nextEditChar
      substitutionFlags fuel { s with foldsCase := true }
    | 'w' :: _ =>
      let _ ← nextEditChar
      passEditChars (· == ' ')
      let name := (← get).rest.takeWhile (· != '\n')
      passEditChars (· != '\n')
      return { s with file := some (String.ofList name) }
    | c :: _ =>
      if c.isDigit then
        let n := (← editNumber).getD 1
        if n = 0 then refuseEdit "number option to \x60s' command may not be zero"
        else substitutionFlags fuel { s with nth := n }
      else if "\n; \t\x7d#".toList.contains c then return s
      else
        let _ ← nextEditChar
        refuseEdit "unknown option to \x60s'"
    | [] => return s

/-- The text of lines behind an edit that adds text. -/
def editText : EditReading String := do
  passEditChars fun c => c == ' ' || c == '\t'
  let source ← get
  match source.rest with
  | '\\' :: '\n' :: _ =>
    let _ ← nextEditChar
    let _ ← nextEditChar
    passEditChars fun c => c == ' ' || c == '\t'
  | '\\' :: c :: _ => if c == ' ' || c == '\t' || c.isAlphanum then let _ ← nextEditChar
  | _ => pure ()
  let rec body (fuel : Nat) : EditReading (List Char) :=
    match fuel with
    | 0 => return []
    | fuel + 1 => do
      match ← nextEditChar with
      | none | some '\n' => return []
      | some '\\' =>
        match ← nextEditChar with
        | none => return []
        | some c => return c :: (← body fuel)
      | some c => return c :: (← body fuel)
  let text ← body ((← get).rest.length + 1)
  if text.isEmpty && (← get).rest.isEmpty && source.rest.isEmpty then
    refuseEdit "expected \\ after \x60a', \x60c' or \x60i'"
  return String.ofList text ++ "\n"

/-- A name up to the end of the line or a semicolon. -/
def editName (marks : List Char) : EditReading String := do
  passEditChars fun c => c == ' ' || c == '\t'
  let name := (← get).rest.takeWhile fun c => !marks.contains c
  passEditChars fun c => !marks.contains c
  return ((String.ofList name).toList.reverse.dropWhile (· == ' ')).reverse |> String.ofList

/-- Takes an edit. -/
def editOf (letter : Char) : EditReading Edit := do
  match letter with
  | '\x7b' => return .openBlock 0
  | '\x7d' => return .closeBlock
  | '=' => return .number
  | 'a' => return .append (← editText)
  | 'i' => return .insert (← editText)
  | 'c' => return .change (← editText)
  | 'b' => return .branch (← editName ['\n', ';', '\x7d'])
  | 't' => return .branchIf (← editName ['\n', ';', '\x7d']) true
  | 'T' => return .branchIf (← editName ['\n', ';', '\x7d']) false
  | ':' => return .label (← editName ['\n', ';'])
  | 'd' => return .delete
  | 'D' => return .deleteFirst
  | 'g' => return .takeHold false
  | 'G' => return .takeHold true
  | 'h' => return .hold false
  | 'H' => return .hold true
  | 'l' => return .list
  | 'n' => return .next
  | 'N' => return .join
  | 'p' => return .print
  | 'P' => return .printFirst
  | 'q' | 'Q' =>
    passEditChars (· == ' ')
    return .quit (letter == 'q') ((← editNumber).getD 0)
  | 'r' => return .readFile (← editName ['\n'])
  | 'w' => return .writeFile (← editName ['\n'])
  | 'x' => return .exchange
  | 'z' => return .clear
  | 's' =>
    let fuel := (← get).rest.length + 1
    let mark := (← nextEditChar).getD '/'
    match ← untilMark fuel mark false with
    | none => refuseEdit "unterminated \x60s' command"
    | some pattern =>
      match ← untilReplaced fuel mark with
      | none => refuseEdit "unterminated \x60s' command"
      | some replacement =>
        let s ← substitutionFlags fuel
          ⟨none, false, replaceParts replacement, false, 1, false, none⟩
        return .substitute { s with expression := ← editRegex pattern }
  | 'y' =>
    let fuel := (← get).rest.length + 1
    let mark := (← nextEditChar).getD '/'
    match ← untilReplaced fuel mark with
    | none => refuseEdit "unterminated \x60y' command"
    | some old =>
      match ← untilReplaced fuel mark with
      | none => refuseEdit "unterminated \x60y' command"
      | some new =>
        let plain (s : List Char) : List Char := unprotected s
        if (plain old).length != (plain new).length then
          refuseEdit "strings for \x60y' command are different lengths"
        else return .translate ((plain old).zip (plain new))
  | c => refuseEdit ("unknown command: \x60" ++ c.toString ++ "'")
where
  untilReplaced (fuel : Nat) (mark : Char) : EditReading (Option (List Char)) :=
    match fuel with
    | 0 => return none
    | fuel + 1 => do
      match ← nextEditChar with
      | none => return none
      | some c =>
        if c == mark then return some []
        else if c == '\\' then
          match ← nextEditChar with
          | none => return none
          | some d =>
            let kept := if d == mark && d != '&' then [d] else ['\\', d]
            return (← untilReplaced fuel mark).map (kept ++ ·)
        else return (← untilReplaced fuel mark).map (c :: ·)
  unprotected : List Char → List Char
    | '\\' :: 'n' :: rest => '\n' :: unprotected rest
    | '\\' :: c :: rest => c :: unprotected rest
    | c :: rest => c :: unprotected rest
    | [] => []

/-- Whether an edit takes the rest of its line. -/
def Edit.takesLine : Edit → Bool
  | append _ | insert _ | change _ | readFile _ | writeFile _ | label _ => true
  | substitute s => s.file.isSome
  | openBlock _ => true
  | _ => false

/-- Takes the edits of a script. -/
def editSteps (fuel : Nat) : EditReading (List EditStep) :=
  match fuel with
  | 0 => return []
  | fuel + 1 => do
    passEditChars fun c => c == ' ' || c == '\t' || c == '\n' || c == ';'
    match (← get).rest with
    | [] => return []
    | '#' :: _ =>
      passEditChars (· != '\n')
      editSteps fuel
    | _ =>
      let first ← editAddress false
      passEditChars (· == ' ')
      let second ←
        match first, (← get).rest with
        | some _, ',' :: _ =>
          let _ ← nextEditChar
          passEditChars (· == ' ')
          match ← editAddress true with
          | some second => pure (some second)
          | none => refuseEdit "unexpected \x60,'"
        | _, _ => pure none
      passEditChars (· == ' ')
      let negated := (← get).rest.head? = some '!'
      passEditChars fun c => c == '!' || (negated && c == ' ')
      match ← nextEditChar with
      | none => refuseEdit "missing command"
      | some letter =>
        let isZero : Bool :=
          match first, second with
          | some (.number 0), some (.found _ _) => false
          | some (.number 0), _ => true
          | _, _ => false
        if isZero then refuseEdit "invalid usage of line address 0"
        else if letter == '\x7d' && first.isSome then refuseEdit "\x7d doesn't want any addresses"
        else
          let edit ← editOf letter
          if !edit.takesLine then
            passEditChars fun c => c == ' ' || c == '\t'
            match (← get).rest with
            | c :: _ =>
              if !"\n;#\x7d".toList.contains c then
                let _ ← nextEditChar
                refuseEdit "extra characters after command"
            | [] => pure ()
          return ⟨first, second, negated, edit⟩ :: (← editSteps fuel)

/-- Edits with the ends of their blocks, or what is wrong with the blocks. -/
def linkBlocks (steps : List EditStep) : Except String (List EditStep) :=
  let numbered := (List.range steps.length).zip steps
  let linked := numbered.map fun (n, step) =>
    match step.edit with
    | .openBlock _ =>
      match closing 1 (n + 1) (steps.drop (n + 1)) with
      | some finish => some { step with edit := .openBlock finish }
      | none => none
    | _ => some step
  match linked.mapM id with
  | none => .error "unmatched \x60\x7b'"
  | some linked =>
    if opens 0 steps then .ok linked else .error "unexpected \x60\x7d'"
where
  closing (depth n : Nat) : List EditStep → Option Nat
    | [] => none
    | step :: rest =>
      match step.edit with
      | .openBlock _ => closing (depth + 1) (n + 1) rest
      | .closeBlock => if depth = 1 then some n else closing (depth - 1) (n + 1) rest
      | _ => closing depth (n + 1) rest
  opens (depth : Nat) : List EditStep → Bool
    | [] => true
    | step :: rest =>
      match step.edit with
      | .openBlock _ => opens (depth + 1) rest
      | .closeBlock => 0 < depth && opens (depth - 1) rest
      | _ => opens depth rest

/-- The script that a text spells, or what is wrong with it. -/
def editScript (style : RegexStyle) (text : String) : Except String (List EditStep) :=
  match (editSteps (text.length + 1)).run ⟨text.toList, 0, style⟩ with
  | .error (place, message) => .error ("char " ++ toString place ++ ": " ++ message)
  | .ok (steps, _) =>
    match linkBlocks steps with
    | .ok steps => .ok steps
    | .error message =>
      .error ("char " ++ (if message.startsWith "unmatched" then "0" else toString text.length) ++
        ": " ++ message)

end Runbook.Shell
