import Runbook.Shell.Builtin.Variables

/-!
# Declarations of variables

A declaration says what is special about a variable, and may give it a value. Inside of a function
it keeps the variable to the function. Variables and functions are also listed as declarations.
-/

namespace Runbook.Shell

/-- The letters that a declaration switches on and off, and its operands. -/
structure DeclarationForm where
  on : List Char
  off : List Char
  operands : List String
  deriving DecidableEq, Repr

/-- The letters that a declaration may have. -/
def declarationLetters : List Char := "aAcfFgiIlnprtux".toList

/-- Reads the letters of a declaration; gives the sign and the letter that it cannot have. -/
def DeclarationForm.read : List String → Except (Char × Char) DeclarationForm
  | [] => .ok ⟨[], [], []⟩
  | "--" :: operands => .ok ⟨[], [], operands⟩
  | word :: rest =>
    match word.toList with
    | sign :: c :: letters =>
      if sign != '-' && sign != '+' then .ok ⟨[], [], word :: rest⟩
      else
        match (c :: letters).find? fun letter => !declarationLetters.contains letter with
        | some letter => .error (sign, letter)
        | none =>
          (DeclarationForm.read rest).map fun form =>
            if sign == '-' then { form with on := c :: letters ++ form.on }
            else { form with off := c :: letters ++ form.off }
    | _ => .ok ⟨[], [], word :: rest⟩

/-- What a variable becomes by a declaration, except that it is not yet protected. -/
def DeclarationForm.applied (form : DeclarationForm) (entry : Variable) : Variable :=
  let on (letter : Char) : Bool := form.on.contains letter
  let off (letter : Char) : Bool := form.off.contains letter
  let isList := entry.content.any fun | .listed _ => true | _ => false
  let content :=
    match entry.content with
    | some (.keyed texts) => some (.keyed texts)
    | some (.listed texts) => some (.listed texts)
    | some (.single text) =>
      if on 'A' then some (.keyed [("0", text)]) else if on 'a' then some (.listed [(0, text)])
      else some (.single text)
    | none => if on 'A' then some (.keyed []) else if on 'a' then some (.listed []) else none
  let letters : List LetterCase :=
    [('l', LetterCase.lower), ('u', .upper), ('c', .capital)].filterMap fun (letter, change) =>
      if on letter then some change else none
  { content
    exported := (entry.exported || on 'x') && !off 'x'
    readOnly := entry.readOnly
    integer := (entry.integer || on 'i') && !off 'i'
    refers := entry.refers && !off 'n'
    awaited := if (on 'a' || on 'A') && entry.content.isNone then true else entry.awaited && isList
    letters :=
      match letters with
      | [change] => change
      | _ :: _ => .kept
      | [] => if off 'l' || off 'u' || off 'c' then .kept else entry.letters }

/-- Why a declaration cannot be made, if it cannot. -/
def DeclarationForm.conflict? (form : DeclarationForm) (entry : Variable) (sets : Bool) :
    Option String :=
  let isListed := entry.content.any fun | .listed _ => true | _ => false
  let isKeyed := entry.content.any fun | .keyed _ => true | _ => false
  if entry.readOnly && (sets || form.off.contains 'r') then some "readonly variable"
  else if isListed && form.on.contains 'A' then some "cannot convert indexed to associative array"
  else if isKeyed && form.on.contains 'a' then some "cannot convert associative to indexed array"
  else if (isListed && form.off.contains 'a') || (isKeyed && form.off.contains 'A') then
    some "cannot destroy array variables in this way"
  else none

/-- Lets a variable stand for another one. -/
def referTo (name : String) (target : Option String) (isKept : Bool) : Act Nat := do
  let put (change : Variable → Variable) : Act Nat := do
    modify fun machine => machine.putVariable name (change (machine.bindings.get name))
    return 0
  match target with
  | none => put fun entry => { entry with refers := true }
  | some target =>
    let (other, _) := splitKey target
    if other = name && !isKept then
      complainIn (name ++ ": nameref variable self references not allowed")
      return 1
    else if !isVariableName other then
      complainIn ("\x60" ++ target ++ "': invalid variable name for name reference")
      return 1
    else put fun entry => { entry with refers := true, content := some (.single target) }

/-- The variable that a name has outside of all functions. -/
def Machine.outermost (machine : Machine) (name : String) : Variable :=
  match (machine.frames.filterMap fun frame => frame.lookup name).getLast? with
  | some kept => kept.getD Variable.unset
  | none => machine.bindings.get name

/-- Puts a variable in place outside of all functions. -/
def Machine.putOutermost (machine : Machine) (name : String) (entry : Variable) : Machine :=
  let rec replace : List (List (String × Option Variable)) → List (List (String × Option Variable))
    | [] => []
    | frame :: rest =>
      if (frame.lookup name).isNone || rest.any (fun other => (other.lookup name).isSome) then
        frame :: replace rest
      else (frame.map fun kept => if kept.1 = name then (name, some entry) else kept) :: rest
  if machine.frames.any fun frame => (frame.lookup name).isSome then
    { machine with frames := replace machine.frames }
  else machine.putVariable name entry

/-- Makes a variable one of the function that is being run. -/
def makeLocal (name : String) : Act Unit := do
  let isKept := ((← get).frames.head?.bind (·.lookup name)).isSome
  keepVariable name
  if !isKept then
    modify fun machine => { machine with bindings := machine.bindings.put name Variable.unset }

/-- Makes a declaration for an operand. -/
def DeclarationForm.declare (form : DeclarationForm) (isLocal : Bool) (operand : String) :
    Act Nat := do
  let (front, value, appends) := splitOperand operand
  let (name, key) := splitKey front
  let isOuter := form.on.contains 'g' && !(← get).frames.isEmpty
  let old := (← get).bindings.get name
  if !isVariableName name then refuseName operand name
  else if isLocal && old.readOnly then
    complainIn (name ++ ": readonly variable")
    return 1
  else
    if isLocal then makeLocal name
    if form.on.contains 'n' then referTo name value isLocal
    else
      let machine ← get
      let name := if form.off.contains 'n' then name else (splitKey (machine.nameOf name)).1
      let entry := if isOuter then machine.outermost name else machine.bindings.get name
      match form.conflict? entry value.isSome with
      | some reason =>
        complainIn (name ++ ": " ++ reason)
        return 1
      | none =>
        let form : DeclarationForm :=
          if key.isSome then { form with on := 'a' :: form.on } else form
        let marked := form.applied entry
        let before := (marked.content.bind (·.text?)).getD ""
        match isOuter, value, key with
        | true, some value, none =>
          let text ← taken marked before value appends
          let content := Content.withText marked.content (marked.cased text)
          modify fun machine => machine.putOutermost name { marked with content := some content }
        | true, _, _ => modify fun machine => machine.putOutermost name marked
        | false, value, key =>
          modify fun machine => machine.putVariable name marked
          match value, key with
          | some value, none =>
            let text ← taken marked before value appends
            modify fun machine => machine.setText name text
          | some value, some key => assignAt name key (← taken marked "" value false)
          | none, _ => pure ()
        if form.on.contains 'r' then
          modify fun machine =>
            machine.putVariable name { machine.bindings.get name with readOnly := true }
        return 0

/-- Tells a variable as a declaration. -/
def tellVariable (name : String) : Act Nat := do
  let machine ← get
  match machine.bindings.lookup name, machine.movingTexts? name with
  | some entry, _ =>
    say 1 (declarationText name entry)
    return 0
  | none, some texts =>
    let entry : Variable :=
      { content := some (.listed (texts.zipIdx.map fun (text, n) => (n, text))) }
    say 1 (declarationText name entry)
    return 0
  | none, none =>
    complainIn (name ++ ": not found")
    return 1

/-- Tells functions by their names or with their texts. -/
def tellFunctions (namesAlone : Bool) (names : List String) : Act Nat := do
  let machine ← get
  if names.isEmpty then
    if namesAlone then
      say 1 (String.join (machine.functionsByName.map fun entry => functionLine entry.1 entry.2))
      return 0
    else listFunctions fun _ => true
  else
    forOperands (fun name => do
      match (← get).functions.lookup name with
      | none => return 1
      | some function =>
        say 1 <|
          if namesAlone then name ++ "\n"
          else functionText machine.hereTexts name function.body
        return 0) names

/-- Declares variables, kept to the function or not, or lists them. -/
def declareVariables (isLocal : Bool) : Utility := fun arguments => do
  let machine ← get
  match DeclarationForm.read arguments with
  | .error (sign, letter) =>
    complainIn (sign.toString ++ letter.toString ++ ": invalid option")
    sayUsage
    return 2
  | .ok form =>
    let on (letter : Char) : Bool := form.on.contains letter
    let isLocal := isLocal || (machine.functionLine.isSome && !on 'g')
    let letters := form.on.filter fun letter => letter != 'p' && letter != 'g'
    let isAsked (entry : Variable) : Bool :=
      letters.isEmpty || letters.any (attributeLetters entry).toList.contains
    if on 'f' || on 'F' then tellFunctions (on 'F') form.operands
    else if !form.operands.isEmpty then
      forOperands (if on 'p' then tellVariable else form.declare isLocal) form.operands
    else if machine.command = some "local" then
      let kept := (machine.frames.headD []).map (·.1)
      say 1 (String.join ((machine.entriesWith isAsked).map fun (name, entry) =>
        if kept.contains name then declarationText name entry else ""))
      return 0
    else if form.on.isEmpty && form.off.isEmpty then
      let _ ← listVariables "" fun entry => entry.content.isSome
      listFunctions fun _ => true
    else listVariables "declare" isAsked

/-- Keeps variables to the function that is being run. -/
def keepVariables : Utility := fun arguments => do
  let machine ← get
  if machine.functionLine.isNone then
    match machine.dialect with
    | .common => abandon 2 "not in a function"
    | .extended =>
      complainIn "can only be used in a function"
      return 1
  else if machine.isExtended then declareVariables true arguments
  else
    forOperands (fun operand => do
      let (name, value, _) := splitOperand operand
      if !isVariableName name then refuseName operand name
      else
        keepVariable name
        match value with
        | some value => assignText name value
        | none => pure ()
        return 0) arguments

end Runbook.Shell
