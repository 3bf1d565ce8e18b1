/-!
# Options of a command line

An option is a word behind two dashes, or a letter behind one; letters may share a dash. An option
that takes a value takes it from the rest of its own argument, or else from the next one. Two
dashes alone end the options.
-/

namespace Runbook.Command

/-- An option: its key, its word with the dashes, its letter, and whether it takes a value. -/
structure Switch (κ : Type) where
  key : κ
  word : String
  letter : Option Char
  takesValue : Bool
  deriving Repr

/-- An option that was given, with its value if it takes one. -/
structure Given (κ : Type) where
  key : κ
  value : Option String
  deriving DecidableEq, Repr

/-- The options and operands of a command line, each in order. -/
structure Line (κ : Type) where
  given : List (Given κ)
  operands : List String
  deriving DecidableEq, Repr

namespace Line

variable {κ : Type}

/-- The line with an option in front. -/
def withOption (option : Given κ) (line : Line κ) : Line κ :=
  { line with given := option :: line.given }

/-- The line with an operand in front. -/
def withOperand (operand : String) (line : Line κ) : Line κ :=
  { line with operands := operand :: line.operands }

/-- The options with one of some keys. -/
def find? [BEq κ] (line : Line κ) (keys : List κ) : Option κ :=
  (line.given.find? fun option => keys.contains option.key).map (·.key)

/-- Whether an option was given. -/
def has [BEq κ] (line : Line κ) (key : κ) : Bool := line.given.any fun option => option.key == key

/-- How often an option was given. -/
def count [BEq κ] (line : Line κ) (key : κ) : Nat :=
  (line.given.filter fun option => option.key == key).length

/-- The last value given for an option. -/
def value? [BEq κ] (line : Line κ) (key : κ) : Option String :=
  (line.given.reverse.find? fun option => option.key == key).bind (·.value)

end Line

/-- The options that letters behind one dash give, and the last one apart if it still needs a
value; nothing if a letter is not known. -/
def lettersGiven {κ : Type} (switches : List (Switch κ)) :
    List Char → Option (List (Given κ) × Option κ)
  | [] => some ([], none)
  | letter :: rest =>
    match switches.find? fun switch => switch.letter = some letter with
    | none => none
    | some switch =>
      if switch.takesValue then
        if rest.isEmpty then some ([], some switch.key)
        else some ([⟨switch.key, some (String.ofList rest)⟩], none)
      else
        (lettersGiven switches rest).map fun (given, open?) =>
          (⟨switch.key, none⟩ :: given, open?)

/-- The options that one argument gives, and the one that still needs a value; nothing if the
argument is not well formed. -/
def optionsIn {κ : Type} (switches : List (Switch κ)) (argument : String) :
    Option (List (Given κ) × Option κ) :=
  match argument.toList with
  | '-' :: '-' :: _ =>
    let word := argument.toList.takeWhile (· != '=')
    let rest := argument.toList.drop word.length
    match switches.find? fun switch => switch.word = String.ofList word with
    | none => none
    | some switch =>
      match switch.takesValue, rest with
      | true, [] => some ([], some switch.key)
      | true, _ :: value => some ([⟨switch.key, some (String.ofList value)⟩], none)
      | false, [] => some ([⟨switch.key, none⟩], none)
      | false, _ :: _ => none
  | _ :: letters => lettersGiven switches letters
  | [] => none

/-- Whether an argument gives options. -/
def givesOptions (argument : String) : Bool :=
  match argument.toList with
  | '-' :: _ :: _ => true
  | _ => false

/-- Reads a command line; nothing if it is not well formed. Where operands and options do not mix,
the first operand ends the options. -/
def readLine {κ : Type} (switches : List (Switch κ)) (mixed : Bool) :
    List String → Option (Line κ)
  | [] => some ⟨[], []⟩
  | argument :: rest =>
    if argument = "--" then some ⟨[], rest⟩
    else if givesOptions argument then
      match optionsIn switches argument, rest with
      | none, _ | some (_, some _), [] => none
      | some (given, none), rest => (readLine switches mixed rest).map (given.foldr Line.withOption)
      | some (given, some key), value :: rest =>
        (readLine switches mixed rest).map fun line =>
          given.foldr Line.withOption (line.withOption ⟨key, some value⟩)
    else if mixed then (readLine switches mixed rest).map (Line.withOperand argument)
    else some ⟨[], argument :: rest⟩

end Runbook.Command
