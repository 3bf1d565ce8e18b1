import Runbook.Data.Value

/-!
# Namespaces of settings files

A table may be opened once by a header, a table made by a dotted key may not be opened later, and
a table or an array written as a value may not be added to. The registry holds what is closed.
-/

namespace Runbook.Toml

/-- In what way a key is closed: to adding anything at it or below it, or to being opened. -/
inductive Closure where
  | frozen
  | opened
  deriving DecidableEq, Repr

/-- The closed keys. -/
abbrev Registry := List (List String × Closure)

namespace Registry

/-- Whether a key is frozen, itself or with a key above it. -/
def isFrozen (registry : Registry) (key : List String) : Bool :=
  registry.any fun entry => entry.2 = .frozen && entry.1.isPrefixOf key

/-- Whether a key was opened. -/
def isOpened (registry : Registry) (key : List String) : Bool :=
  registry.any fun entry => entry.2 = .opened && entry.1 == key

/-- Forgets a key and all below it. -/
def release (registry : Registry) (key : List String) : Registry :=
  registry.filter fun entry => !key.isPrefixOf entry.1

end Registry

/-- The entries of a table. -/
abbrev Table := List (Scalar × Value)

namespace Table

/-- Whether a table has an entry. -/
def has (name : String) (table : Table) : Bool := (Value.find? (.str name) table).isSome

/-- Changes the table at a key, making the tables on the way. On the way an array stands for its
last item where the flag says so. -/
def update (throughArrays : Bool) (change : Table → Option Table) :
    List String → Table → Option Table
  | [], table => change table
  | name :: key, table =>
    let inner := update throughArrays change key
    let changed : Option Value :=
      match Value.find? (.str name) table with
      | none => (inner []).map .map
      | some (.map entries) => (inner entries).map .map
      | some (.list items) =>
        if throughArrays then
          match items.getLast? with
          | some (.map entries) =>
            (inner entries).map fun entries => .list (items.dropLast ++ [.map entries])
          | _ => none
        else none
      | some _ => none
    changed.map fun value => Value.setEntry (.str name) value table

/-- Adds a new entry to a table. -/
def add (name : String) (value : Value) (table : Table) : Option Table :=
  if table.has name then none else some (table ++ [(.str name, value)])

/-- Adds an empty table to the array of an entry. -/
def append (name : String) (table : Table) : Option Table :=
  match Value.find? (.str name) table with
  | none => some (table ++ [(.str name, .list [.map []])])
  | some (.list items) => some (Value.setEntry (.str name) (.list (items ++ [.map []])) table)
  | some _ => none

end Table

end Runbook.Toml
