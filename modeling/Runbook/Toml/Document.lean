import Runbook.Text.Line
import Runbook.Toml.Value

/-!
# Settings files

A settings file is a list of statements, each on a line of its own: pairs of a key and a value,
headers that open a table, and headers that add a table to an array.
-/

namespace Runbook.Toml

/-- What was read of a settings file: its tables, the closed keys, the keys that the next header
closes, and the key of the table that pairs go to. -/
structure Progress where
  table : Table
  registry : Registry
  pending : List (List String)
  header : List String

namespace Progress

/-- The state at the start of a file. -/
def start : Progress := ⟨[], [], [], []⟩

/-- Closes the keys that waited for the next header. -/
def settle (progress : Progress) : Progress :=
  { progress with
    registry := progress.pending.map (·, .opened) ++ progress.registry
    pending := [] }

/-- Opens a table. -/
def openTable (key : List String) (progress : Progress) : Option Progress :=
  if progress.registry.isOpened key || progress.registry.isFrozen key then none
  else
    (progress.table.update true some key).map fun table =>
      { progress with table, registry := (key, .opened) :: progress.registry, header := key }

/-- Adds a table to an array. -/
def appendTable (key : List String) (progress : Progress) : Option Progress :=
  if progress.registry.isFrozen key then none
  else
    let name := key.getLastD ""
    (progress.table.update true (Table.append name) key.dropLast).map fun table =>
      { progress with
        table, registry := (key, .opened) :: progress.registry.release key, header := key }

/-- The proper beginnings of a key that hold at least one part. -/
def beginnings (key : List String) : List (List String) :=
  (List.range (key.length - 1)).map fun n => key.take (n + 1)

/-- Adds a value to the table of the last header. -/
def addPair (key : List String) (value : Value) (progress : Progress) : Option Progress :=
  let around := (beginnings key).map (progress.header ++ ·)
  let parent := progress.header ++ key.dropLast
  let name := key.getLastD ""
  if around.any progress.registry.isOpened || progress.registry.isFrozen parent then none
  else
    (progress.table.update true (Table.add name value) parent).map fun table =>
      let registry :=
        match value with
        | .scalar _ => progress.registry
        | _ => (progress.header ++ key, .frozen) :: progress.registry
      { progress with table, registry, pending := progress.pending ++ around }

end Progress

/-- Reads the key of a header and what closes it. -/
def header? (closing : List Char) (s : List Char) : Read (List String) :=
  (key? (s.length + 1) (skipBlanks s)).bind fun (key, rest) =>
    (after? closing rest).map fun rest => (key, rest)

/-- Reads one statement. -/
def statement? (progress : Progress) (s : List Char) : Parsed Progress :=
  match s with
  | '[' :: '[' :: rest =>
    wellFormed ((header? [']', ']'] rest).bind fun (key, rest) =>
      (progress.settle.appendTable key).map (·, rest))
  | '[' :: rest =>
    wellFormed ((header? [']'] rest).bind fun (key, rest) =>
      (progress.settle.openTable key).map (·, rest))
  | '#' :: _ => .ok (progress, s)
  | _ =>
    (pair? (2 * s.length + 4) nestingRoom s).bind fun ((key, value), rest) =>
      wellFormed ((progress.addPair key value).map (·, rest))

/-- Reads statements up to the end of the file. -/
def statements? (fuel : Nat) (progress : Progress) (s : List Char) : Except Fault Table :=
  match fuel with
  | 0 => .error .malformed
  | fuel + 1 =>
    match skipBlanks s with
    | [] => .ok progress.table
    | '\n' :: rest => statements? fuel progress rest
    | s =>
      (statement? progress s).bind fun (progress, rest) =>
        (wellFormed (skipComment? (skipBlanks rest))).bind fun rest =>
          match rest with
          | [] => .ok progress.table
          | '\n' :: rest => statements? fuel progress rest
          | _ => .error .malformed

/-- Writes a carriage return before a line feed as the line feed alone. -/
def unifyBreaks : List Char → List Char
  | [] => []
  | '\r' :: '\n' :: rest => '\n' :: unifyBreaks rest
  | c :: rest => c :: unifyBreaks rest

/-- The table that the text of a settings file holds. -/
def document? (s : List Char) : Except Fault Table :=
  let s := unifyBreaks s
  statements? (s.length + 1) .start s

end Runbook.Toml
