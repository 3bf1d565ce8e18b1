import Runbook.Shell.Arithmetic
import Runbook.Shell.Builtin.Basic
import Runbook.Shell.Format
import Runbook.Shell.Listing

/-!
# Commands for variables

Variables are set, protected, given to commands, kept to a function and forgotten. A protected
variable cannot be changed.
-/

namespace Runbook.Shell

/-- Fails because a variable is protected. -/
def refuseChange {α : Type} (name : String) : Act α := do
  match (← get).dialect with
  | .common => abandon 2 (name ++ ": is read only")
  | .extended => abandon 1 (name ++ ": readonly variable")

/-- What arithmetic works among in a machine. -/
def Machine.scope (machine : Machine) : SumScope where
  dialect := machine.dialect
  text? name key :=
    match key with
    | none => machine.parameter? name
    | some key =>
      match (machine.entry name).content with
      | some (.keyed texts) => texts.lookup key
      | some content => content.at? ((key.toInt?).getD 0)
      | none => none
  isKeyed name :=
    match (machine.entry name).content with
    | some (.keyed _) => true
    | _ => false
  failsAtUnset := machine.has 'u' && machine.isExtended

/-- A name and the index behind it. -/
def splitKey (text : String) : String × Option String :=
  let front := text.toList.takeWhile (· != '[')
  if front.length = text.length then (text, none)
  else (String.ofList front, some (String.ofList ((text.toList.drop (front.length + 1)).dropLast)))

/-- Gives one text of a list a value. -/
def assignAt (name key text : String) : Act Unit := do
  let machine ← get
  let name := machine.nameOf name
  let entry := machine.bindings.get name
  if entry.readOnly then refuseChange name
  else
    let content ←
      match entry.content with
      | some (.keyed _) => pure (Content.withKey entry.content key text)
      | content =>
        let n := key.toInt?.getD 0
        let last : Int := (content.map Content.nextNumber).getD 0
        let n := if n < 0 then last + n else n
        if n < 0 then
          complain (name ++ "[" ++ key ++ "]: bad array subscript")
          setStatus 1
          throw .fault
        else pure (Content.withNumber content n.toNat text)
    set (machine.putVariable name { entry with content := some content })

/-- Gives a variable a text, unless it is protected. A variable may stand for a part of a list. -/
def assignText (name text : String) : Act Unit := do
  let machine ← get
  match splitKey (machine.nameOf name) with
  | (list, some key) => assignAt list key text
  | (name, none) =>
    if (machine.bindings.get name).readOnly then refuseChange name
    else set (machine.setText name text)

/-- Makes the assignments of an expression. -/
def assignNumbers : List ((String × Option String) × Int) → Act Unit
  | [] => return ()
  | ((name, key), n) :: rest => do
    match key with
    | none => assignText name (decimalText n)
    | some key => assignAt name key (decimalText n)
    assignNumbers rest

/-- The status of a shell that a missing value ends. -/
def Machine.endingStatus (machine : Machine) : Nat := if machine.has 'e' then 1 else 127

/-- The value of an expression; a fault is told behind what it stands in. -/
def calculate (place : Option String) (text : String) : Act (Option Int) := do
  let machine ← get
  let shown := String.ofList (behindBlanks text.toList)
  let (result, assigned) := evaluateSum machine.scope text.toList
  assignNumbers assigned
  match result with
  | .ok n => return some n
  | .error fault =>
    let message := fault.message machine.dialect (if machine.isExtended then shown else text)
    match machine.dialect, fault with
    | .common, _ => abandon 2 message
    | .extended, .unset _ =>
      complain message
      setStatus machine.endingStatus
      throw .leave
    | .extended, _ =>
      complain (place.elim "" (· ++ ": ") ++ message)
      return none

/-- The number of an index; without one the shell ends. -/
def indexNumber (text : String) : Act Int := do
  match ← calculate none text with
  | some n => return n
  | none =>
    setStatus 1
    throw .leave

/-- The variable and the index that a name and an index stand for. -/
def Machine.meant (machine : Machine) (name : String) (index : Option String) :
    String × Option String :=
  let (behind, key) := splitKey (machine.nameOf name)
  (behind, index <|> key)

/-- Whether an index stands for all texts of a list. -/
def meansAll (mark : String) : Bool := mark = "@" || mark = "*"

/-- The letters of what is special about a variable. -/
def attributeLetters (entry : Variable) : String :=
  let letters : List (Bool × Char) :=
    [(entry.content.any fun | .listed _ => true | _ => false, 'a'),
     (entry.content.any fun | .keyed _ => true | _ => false, 'A'),
     (entry.integer, 'i'), (entry.refers, 'n'), (entry.readOnly, 'r'), (entry.exported, 'x'),
     (entry.letters = .capital, 'c'), (entry.letters = .lower, 'l'), (entry.letters = .upper, 'u')]
  String.ofList (letters.filterMap fun (has, c) => if has then some c else none)

/-- The value of a list as it can be read back. -/
def listText (content : Content) : String :=
  let bracketed (key text : String) : String := "[" ++ key ++ "]=" ++ doubleQuoted text
  let shown (key : String) : String :=
    if key.toList.any isUnseen then escapedQuote key
    else if hasMark none key.toList || key = "@" then doubleQuoted key else key
  match content with
  | .single text => text
  | .listed texts =>
    "(" ++ " ".intercalate (texts.map fun (n, text) => bracketed (toString n) text) ++ ")"
  | .keyed texts =>
    "(" ++ String.join (texts.map fun (key, text) => bracketed (shown key) text ++ " ") ++ ")"

/-- The declaration of a variable, as it can be read back. -/
def declarationText (name : String) (entry : Variable) : String :=
  let letters := attributeLetters entry
  let front := "declare -" ++ (if letters = "" then "-" else letters) ++ " " ++ name
  front ++
    match entry.content with
    | none => "\n"
    | some (.single text) => "=" ++ doubleQuoted text ++ "\n"
    | some content =>
      if entry.awaited && content.texts.isEmpty then "\n" else "=" ++ listText content ++ "\n"

/-- A variable as it is listed with its value alone. -/
def settingText (name : String) (entry : Variable) : String :=
  match entry.content with
  | some (.single text) => name ++ "=" ++ quotedIfMarked text ++ "\n"
  | some content => name ++ "=" ++ listText content ++ "\n"
  | none => ""

/-- The variables that satisfy a condition, in the order of their names. -/
def Machine.entriesWith (machine : Machine) (holds : Variable → Bool) : List (String × Variable) :=
  (machine.bindings.filter fun entry => holds entry.2).mergeSort fun a b => a.1 ≤ b.1

/-- Lists the variables that satisfy a condition, each behind a word. -/
def listVariables (front : String) (holds : Variable → Bool) : Act Nat := do
  let machine ← get
  say 1 (String.join ((machine.entriesWith holds).map fun (name, entry) =>
    match machine.dialect, front with
    | .extended, "" => settingText name entry
    | .extended, _ => declarationText name entry
    | .common, _ =>
      (if front = "" then "" else front ++ " ") ++ name ++
        ((entry.content.bind (·.text?)).elim "" fun text => "=" ++ singleQuoted text) ++ "\n"))
  return 0

/-- The functions in the order of their names. -/
def Machine.functionsByName (machine : Machine) : List (String × Function) :=
  machine.functions.mergeSort fun a b => a.1 ≤ b.1

/-- The line that declares a function by its name. -/
def functionLine (name : String) (function : Function) : String :=
  "declare -f" ++ (if function.readOnly then "r" else "") ++
    (if function.exported then "x" else "") ++
    " " ++ name ++ "\n"

/-- Lists the functions that satisfy a condition with their texts and what is special about them. -/
def listFunctions (holds : Function → Bool) : Act Nat := do
  let machine ← get
  say 1 (String.join ((machine.functionsByName.filter fun entry => holds entry.2).map
    fun (name, function) =>
      functionText machine.hereTexts name function.body ++
        if function.readOnly || function.exported then functionLine name function else ""))
  return 0

/-- Changes a function, if there is one. -/
def changeFunction (change : Function → Function) (name : String) : Act Nat := do
  let machine ← get
  match machine.functions.lookup name with
  | some function =>
    set { machine with
      functions := (name, change function) :: machine.functions.filter (·.1 != name) }
    return 0
  | none =>
    complainIn (name ++ ": not a function")
    return 1

/-- The name and the value of an operand that may assign, and whether it adds to the old value. -/
def splitOperand (text : String) : String × Option String × Bool :=
  let name := text.toList.takeWhile (· != '=')
  if name.length = text.length then (text, none, false)
  else
    let value := String.ofList (text.toList.drop (name.length + 1))
    if name.getLast? = some '+' then (String.ofList name.dropLast, some value, true)
    else (String.ofList name, some value, false)

/-- Fails because an operand names no variable. -/
def refuseName (operand name : String) : Act Nat := do
  match (← get).dialect with
  | .common => abandon 2 (name ++ ": bad variable name")
  | .extended =>
    complainIn ("\x60" ++ operand ++ "': not a valid identifier")
    return 1

/-- The text that a variable takes: that of a number is computed. -/
def taken (entry : Variable) (old text : String) (appends : Bool) : Act String := do
  if entry.integer then
    let n ← calculate (← get).command text
    let before := if appends then (old.toInt?).getD 0 else 0
    return decimalText (before + n.getD 0)
  else return if appends then old ++ text else text

/-- Sets variables from operands and marks them. -/
def markVariables (mark : Variable → Variable) : List String → Act Nat :=
  forOperands fun operand => do
    let (name, value, appends) := splitOperand operand
    if !isVariableName name then refuseName operand name
    else
      match value with
      | some value =>
        let machine ← get
        assignText name (← taken (machine.entry name) (machine.textOf name) value appends)
      | none => pure ()
      modify fun machine =>
        machine.putVariable (machine.nameOf name) (mark (machine.entry name))
      return 0

/-- How variables or functions are marked: the word for it, what it changes, and who has the
mark. -/
structure Marking where
  word : String
  change : Variable → Variable
  holds : Variable → Bool
  changeFunction : Function → Function
  holdsFunction : Function → Bool

/-- Gives variables to commands, or protects them; without operands those are listed. -/
def markCommand (marking : Marking) (unmark : Option Marking) : Utility := fun arguments => do
  let machine ← get
  let known := if !machine.isExtended then "p" else if unmark.isSome then "pnf" else "pfaA"
  let (options, operands) ← optionsOf known arguments
  let has (letter : Char) : Bool := options.any (·.1 == letter)
  let front := if machine.isExtended then "declare" else marking.word
  let isList (entry : Variable) (letter : Char) : Bool :=
    (attributeLetters entry).toList.contains letter
  let holds (entry : Variable) : Bool :=
    marking.holds entry && (!has 'a' || isList entry 'a') && (!has 'A' || isList entry 'A')
  let marking := if has 'n' then unmark.getD marking else marking
  if has 'f' then
    if operands.isEmpty then listFunctions marking.holdsFunction
    else forOperands (changeFunction marking.changeFunction) operands
  else if operands.isEmpty || (!machine.isExtended && has 'p') then listVariables front holds
  else markVariables marking.change operands

/-- Gives variables to commands. -/
def exportVariables : Utility :=
  markCommand
    ⟨"export", fun entry => { entry with exported := true }, (·.exported),
      fun function => { function with exported := true }, (·.exported)⟩
    (some ⟨"export", fun entry => { entry with exported := false }, (·.exported),
      fun function => { function with exported := false }, (·.exported)⟩)

/-- Protects variables. -/
def protectVariables : Utility :=
  markCommand
    ⟨"readonly", fun entry => { entry with readOnly := true }, (·.readOnly),
      fun function => { function with readOnly := true }, (·.readOnly)⟩ none

/-- Keeps the present state of a variable for the end of the function. -/
def keepVariable (name : String) : Act Unit := modify fun machine =>
  match machine.frames with
  | [] => machine
  | frame :: frames =>
    if (frame.lookup name).isSome then machine
    else { machine with frames := ((name, machine.bindings.lookup name) :: frame) :: frames }

/-- Opens a frame in which variables can be kept. -/
def openFrame : Act Unit := modify fun machine => { machine with frames := [] :: machine.frames }

/-- Closes the last frame: the variables kept in it are as they were. -/
def closeFrame : Act Unit := modify fun machine =>
  match machine.frames with
  | [] => machine
  | frame :: frames =>
    { machine with
      frames
      bindings := frame.foldl
        (fun bindings (name, entry) =>
          match entry with
          | some entry => bindings.put name entry
          | none => bindings.erase name)
        machine.bindings }

/-- Why a text of a list cannot be forgotten. -/
inductive PartFault where
  | noList
  | badKey
  deriving DecidableEq, Repr

/-- What is left of the content of a variable without the text at a key. -/
def contentWithout (content : Content) (key : String) : Except PartFault (Option Content) :=
  match content with
  | .keyed texts => .ok (some (.keyed (texts.filter (·.1 != key))))
  | .listed texts =>
    if key = "@" || key = "*" then .ok (some (.listed []))
    else if number < 0 then .error .badKey
    else .ok (some (.listed (texts.filter fun entry => (entry.1 : Int) != number)))
  | .single _ => if key != "@" && key != "*" && number = 0 then .ok none else .error .noList
where
  number : Int :=
    let n := key.toInt?.getD 0
    if n < 0 then content.nextNumber + n else n

/-- Forgets a variable. One that a function around the present one keeps gets the state back that it
had before. -/
def Machine.unsetKept (machine : Machine) (name : String) : Machine :=
  let isOwn := (machine.frames.head?.bind (·.lookup name)).isSome
  match machine.isExtended && !isOwn, machine.frames.findSome? (·.lookup name) with
  | true, some kept =>
    let rec without : List (List (String × Option Variable)) →
        List (List (String × Option Variable))
      | [] => []
      | frame :: rest =>
        if (frame.lookup name).isSome then frame.filter (·.1 != name) :: rest
        else frame :: without rest
    { machine with
      frames := without machine.frames
      bindings := kept.elim (machine.bindings.erase name) (machine.bindings.put name) }
  | _, _ => machine.unset name

/-- Forgets a variable, or a text of its list. -/
def unsetVariable (name : String) (key : Option String) : Act Nat := do
  let machine ← get
  let entry := machine.bindings.get name
  if entry.readOnly then
    match machine.dialect with
    | .common => refuseChange name
    | .extended =>
      complainIn (name ++ ": cannot unset: readonly variable")
      return 1
  else
    match key with
    | none => modify fun machine => machine.unsetKept name
    | some key =>
      match entry.content.map fun content => contentWithout content key with
      | none => return 0
      | some (.ok content) => set (machine.putVariable name { entry with content })
      | some (.error fault) =>
        complainIn <|
          match fault with
          | .noList => name ++ ": not an array variable"
          | .badKey => "[" ++ key ++ "]: bad array subscript"
        return 1
    return 0

/-- Forgets a function. -/
def unsetFunction (name : String) : Act Nat := do
  let machine ← get
  if (machine.functions.lookup name).any Function.readOnly then
    complainIn (name ++ ": cannot unset: readonly function")
    return 1
  else
    set { machine with functions := machine.functions.filter (·.1 != name) }
    return 0

/-- Forgets variables or functions. -/
def unsetNames : Utility := fun arguments => do
  let machine ← get
  let (options, operands) ← optionsOf (if machine.isExtended then "vfn" else "vf") arguments
  let letter := (options.getLast?.map (·.1)).getD ' '
  forOperands (fun operand => do
    let machine ← get
    let (front, key) := splitKey operand
    if letter == 'f' then unsetFunction operand
    else if !isVariableName front then
      if machine.isExtended && letter != 'v' then unsetFunction operand
      else refuseName operand front
    else if !machine.isExtended then unsetVariable front none
    else if letter == 'n' then unsetVariable front none
    else if letter != 'v' && key.isNone && (machine.bindings.lookup front).isNone then
      unsetFunction front
    else
      let (name, behind) := splitKey (machine.nameOf front)
      unsetVariable name (key <|> behind)) operands

/-- Computes expressions; the status says whether the last one is not zero. -/
def letCommand : Utility := fun arguments => do
  if arguments.isEmpty then
    complainIn "expression expected"
    return 1
  else
    let mut last : Option Int := none
    for text in arguments do last ← calculate (← get).command text
    return if last.any (· != 0) then 0 else 1

end Runbook.Shell
