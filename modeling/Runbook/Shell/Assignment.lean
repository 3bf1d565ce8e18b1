import Runbook.Shell.Builtin.Variables
import Runbook.Shell.Expand

/-!
# Assignments

An assignment gives a variable a text, an element, or a whole list. In front of a command it lasts
as long as the command.
-/

namespace Runbook.Shell

/-- The value of a variable as it is traced in the extended language. -/
def tracedValue (text : String) : String :=
  if hasMark none text.toList then quotedPlainly text
  else if text.toList.any isUnseen then escapedQuote text
  else text

/-- A word as it is traced. -/
def Machine.traced (machine : Machine) (word : String) : String :=
  if !machine.isExtended then word else if word = "" then "''" else tracedValue word

/-- Gives a variable a value for the time of one command; it is given to programs. In the extended
language a command is run even if a variable for it cannot be changed. -/
def assignFor (name text : String) : Act Unit := do
  let machine ← get
  if machine.isExtended && (machine.entry name).readOnly then
    complain (name ++ ": readonly variable")
  else
    keepVariable name
    assignText name text
    modify fun machine =>
      machine.putVariable name { machine.bindings.get name with exported := true }

/-- The texts of the elements of a list with their keys. -/
def expandElements (fuel : Nat) (run : List Command → Act Unit) :
    List (Option Word × Word) → Act (List (Option String × String))
  | [] => return []
  | (none, word) :: rest => do
    let fields ← expandFields fuel run [word]
    return fields.map (fun text => (none, text)) ++ (← expandElements fuel run rest)
  | (some index, word) :: rest => do
    let key := plainText (← expandWord fuel run false index)
    let text ← expandValue fuel run word
    return (some key, text) :: (← expandElements fuel run rest)

/-- Puts elements into a list one after another. A list of keys takes keys and texts in turn where
no keys are given. -/
def putElements (entry : Variable) (appends : Bool) (content : Content) :
    List (Option String × String) → Act Content
  | [] => return content
  | [(none, text)] => do
    match content with
    | .keyed _ => return Content.withKey (some content) text ""
    | _ => return Content.withNumber (some content) content.nextNumber (← taken entry "" text false)
  | (none, text) :: (key, value) :: rest => do
    match content, key with
    | .keyed _, none =>
      putElements entry appends (Content.withKey (some content) text value) rest
    | _, _ =>
      let text ← taken entry "" text false
      putElements entry appends (Content.withNumber (some content) content.nextNumber text)
        ((key, value) :: rest)
  | (some key, text) :: rest => do
    match content with
    | .keyed texts =>
      let text ← taken entry ((texts.lookup key).getD "") text false
      putElements entry appends (Content.withKey (some content) key text) rest
    | _ =>
      let n ← indexNumber key
      let n := if n < 0 then n + content.nextNumber else n
      let text ← taken entry "" text false
      putElements entry appends (Content.withNumber (some content) n.toNat text) rest

/-- Gives a variable a list of elements, unless it is protected or this is its declaration. -/
def assignElements (name : String) (appends declares : Bool)
    (elements : List (Option String × String)) : Act Unit := do
  let name := (← get).nameOf name
  let entry := (← get).bindings.get name
  if entry.readOnly && !declares then refuseChange name
  let start : Content :=
    match entry.content, appends with
    | some content, true =>
      match content with
      | .single text => .listed [(0, text)]
      | content => content
    | some (.keyed _), false => .keyed []
    | _, _ => .listed []
  let content ← putElements entry appends start elements
  modify fun machine =>
    machine.putVariable name { entry with content := some content, awaited := false }

/-- The name that an assignment spells, with an index if there is one. -/
def spelledName (name text : String) : String :=
  let rec front : List Char → List Char
    | ']' :: '=' :: _ | ']' :: '+' :: '=' :: _ | [] => [']']
    | c :: rest => c :: front rest
  name ++ String.ofList (front (text.toList.drop name.length))

/-- Makes an assignment, which is noted before it takes effect; gives it as it is traced. It may be
for one command only. -/
def assign (fuel : Nat) (run : List Command → Act Unit) (note : String → Act Unit) (isKept : Bool)
    (exported : Bool) : Assignment → Act String
  | .value name none appends word _ => do
    let text ← expandValue fuel run word
    let machine ← get
    note (name ++ (if appends then "+=" else "=") ++ tracedValue text)
    let entry := machine.entry name
    let text ← taken entry (machine.textOf name) text appends
    if isKept then
      assignText name text
      if exported then
        modify fun machine =>
          machine.putVariable name { machine.bindings.get name with exported := true }
    else assignFor name text
    return name ++ "=" ++ machine.traced text
  | .value name (some index) appends word spelled => do
    let key := plainText (← expandWord fuel run false index)
    let text ← expandValue fuel run word
    note (spelledName name spelled ++ (if appends then "+=" else "=") ++ tracedValue text)
    let entry := (← get).entry name
    let isKeyed :=
      match entry.content with
      | some (.keyed _) => true
      | _ => false
    let key ← if isKeyed then pure key else decimalText <$> indexNumber key
    let old : String :=
      match entry.content with
      | some (.keyed texts) => (texts.lookup key).getD ""
      | some content => (content.at? (key.toInt?.getD 0)).getD ""
      | none => ""
    assignAt name key (← taken entry old text appends)
    return ""
  | .list name appends elements spelled => do
    let texts ← expandElements fuel run elements
    note spelled
    assignElements name appends false texts
    return ""

/-- Makes assignments in order. -/
def assignAll (fuel : Nat) (run : List Command → Act Unit) (note : String → Act Unit)
    (isKept exported : Bool) : List Assignment → Act (List String)
  | [] => return []
  | assignment :: rest => do
    let shown ← assign fuel run note isKept exported assignment
    return shown :: (← assignAll fuel run note isKept exported rest)

/-- The elements of the lists that a declaration gives, which are noted. -/
def expandLists (fuel : Nat) (run : List Command → Act Unit) (note : String → Act Unit) :
    List Assignment → Act (List (String × Bool × List (Option String × String)))
  | .list name appends elements _ :: rest => do
    let texts ← expandElements fuel run elements
    let shown := texts.map fun (key, text) =>
      key.elim "" (fun key => "[" ++ quotedPlainly key ++ "]=") ++ quotedPlainly text
    note (name ++ (if appends then "+=(" else "=(") ++ " ".intercalate shown ++ ")")
    return (name, appends, texts) :: (← expandLists fuel run note rest)
  | _ => return []

end Runbook.Shell
