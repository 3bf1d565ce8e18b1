import Runbook.Number.Power
import Runbook.Shell.Script

/-!
# Variables of a shell

A variable holds one text or a list of texts, by number or by key. It may be given to commands, and
it may be protected from change.
-/

namespace Runbook.Shell

/-- What a variable holds. Numbered texts are kept in the order of their numbers, those by keys in
the order of the rows of a table. -/
inductive Content where
  | single (text : String)
  | listed (texts : List (Nat × String))
  | keyed (texts : List (String × String))
  deriving DecidableEq, Repr

/-- How letters change when a variable gets a text. -/
inductive LetterCase where
  | kept
  | lower
  | upper
  | capital
  deriving DecidableEq, Repr

/-- A variable; without content it is not set. One that refers holds the name of the one it stands
for. A list may be declared before it gets any texts. -/
structure Variable where
  content : Option Content := none
  exported : Bool := false
  readOnly : Bool := false
  integer : Bool := false
  refers : Bool := false
  awaited : Bool := false
  letters : LetterCase := .kept
  deriving DecidableEq, Repr

/-- A variable that is not set. -/
def Variable.unset : Variable := {}

/-- A variable with a text. -/
def Variable.ofText (text : String) : Variable := { content := some (.single text) }

/-- A text as a variable takes it. -/
def Variable.cased (entry : Variable) (text : String) : String :=
  match entry.letters with
  | .kept => text
  | .lower => text.toLower
  | .upper => text.toUpper
  | .capital =>
    match text.toList with
    | c :: rest => String.ofList (c.toUpper :: rest.map Char.toLower)
    | [] => ""

/-- The variables by their names. -/
abbrev Bindings := List (String × Variable)

/-- The texts with the one for a key replaced or added. -/
def replaceKey (key text : String) : List (String × String) → List (String × String)
  | [] => [(key, text)]
  | (other, old) :: rest =>
    if other = key then (key, text) :: rest else (other, old) :: replaceKey key text rest

/-- The row of a key in a table with so many rows, which are a power of two: each octet is mixed
into what comes before it, after that is spread over 32 bits. -/
def keyRow (rows : Nat) (key : String) : Nat :=
  (key.toList.foldl mixed 2166136261) % rows
where
  mixed (before : Nat) (c : Char) : Nat :=
    let octet := if c.toNat < 128 then c.toNat else c.toNat + (twoTo 32 - 256)
    (before * 16777619 % twoTo 32) ^^^ octet

/-- The number of rows of a table of texts by keys. -/
def textRows : Nat := 1024

/-- The texts with the one for a key replaced or put into its row, in front of the others there. -/
def putKey (key text : String) (texts : List (String × String)) : List (String × String) :=
  if (texts.lookup key).isSome then
    texts.map fun entry => if entry.1 = key then (key, text) else entry
  else
    let isBefore (entry : String × String) : Bool := keyRow textRows entry.1 < keyRow textRows key
    texts.takeWhile isBefore ++ (key, text) :: texts.dropWhile isBefore

/-- The texts with the one for a number replaced or put at its place. -/
def replaceNumber (n : Nat) (text : String) : List (Nat × String) → List (Nat × String)
  | [] => [(n, text)]
  | (other, old) :: rest =>
    if other = n then (n, text) :: rest
    else if n < other then (n, text) :: (other, old) :: rest
    else (other, old) :: replaceNumber n text rest

namespace Content

/-- The text that stands for the whole: that of a list is its text number zero. -/
def text? : Content → Option String
  | single text => some text
  | listed texts => texts.lookup 0
  | keyed texts => texts.lookup "0"

/-- All texts, in order. -/
def texts : Content → List String
  | single text => [text]
  | listed texts => texts.map (·.2)
  | keyed texts => texts.map (·.2)

/-- The keys of all texts, in order. -/
def keys : Content → List String
  | single _ => ["0"]
  | listed texts => texts.map fun entry => toString entry.1
  | keyed texts => texts.map (·.1)

/-- The number that stands behind all others. -/
def nextNumber : Content → Nat
  | single _ => 1
  | listed texts => (texts.getLast?.map fun entry => entry.1 + 1).getD 0
  | keyed _ => 0

/-- The text at a number; negative ones count from the end. -/
def at? (content : Content) (n : Int) : Option String :=
  let n := if n < 0 then content.nextNumber + n else n
  match content with
  | single text => if n = 0 then some text else none
  | listed texts => if n < 0 then none else texts.lookup n.toNat
  | keyed texts => texts.lookup (toString n)

/-- The content with one text as the whole. -/
def withText (content : Option Content) (text : String) : Content :=
  match content with
  | some (listed texts) => listed (replaceNumber 0 text texts)
  | some (keyed texts) => keyed (putKey "0" text texts)
  | _ => single text

/-- The content with a text at a number. -/
def withNumber (content : Option Content) (n : Nat) (text : String) : Content :=
  match content with
  | some (listed texts) => listed (replaceNumber n text texts)
  | some (keyed texts) => keyed (putKey (toString n) text texts)
  | some (single old) => listed (replaceNumber n text [(0, old)])
  | none => listed [(n, text)]

/-- The content with a text at a key. -/
def withKey (content : Option Content) (key text : String) : Content :=
  match content with
  | some (keyed texts) => keyed (putKey key text texts)
  | _ => keyed [(key, text)]

end Content

namespace Bindings

/-- The variable with a name. -/
def get (bindings : Bindings) (name : String) : Variable :=
  (bindings.lookup name).getD Variable.unset

/-- The bindings with a variable in place of the one of its name. -/
def put (bindings : Bindings) (name : String) (entry : Variable) : Bindings :=
  if (bindings.lookup name).isSome then
    bindings.map fun other => if other.1 = name then (name, entry) else other
  else bindings ++ [(name, entry)]

/-- The name that a name stands for, through at most so many variables that refer. -/
def nameBehind (fuel : Nat) (bindings : Bindings) (name : String) : String :=
  match fuel with
  | 0 => name
  | fuel + 1 =>
    let entry := bindings.get name
    match entry.refers, entry.content.bind Content.text? with
    | true, some other => if other = "" then name else nameBehind fuel bindings other
    | _, _ => name

/-- The bindings without a variable. -/
def erase (bindings : Bindings) (name : String) : Bindings :=
  bindings.filter fun other => other.1 != name

end Bindings

end Runbook.Shell
