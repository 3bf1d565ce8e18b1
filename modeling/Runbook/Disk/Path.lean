import Runbook.Text.Line

/-!
# Paths

A path is a number of slashes in front and the names behind them. Empty names and single dots do
not count, so that many spellings are one path; two dots stay, since they depend on what is there.
-/

namespace Runbook

/-- The way from the root of a disk to a place on it. -/
abbrev Location := List String

/-- A path. Without slashes in front it is relative; two slashes are kept apart from one. -/
structure Path where
  slashes : Nat
  names : List String
  deriving DecidableEq, Repr

namespace Path

/-- The number of slashes that the slashes in front of a text count for. -/
def leadingSlashes (s : List Char) : Nat :=
  let n := (s.takeWhile (· == '/')).length
  if n = 2 then 2 else min n 1

/-- Whether a name counts in a path. -/
def counts (name : String) : Bool := name != "" && name != "."

/-- The path that a text spells. -/
def ofText (text : String) : Path :=
  ⟨leadingSlashes text.toList, (Text.splitString '/' text).filter counts⟩

/-- The text of a path; the path without names is a dot. -/
def text (path : Path) : String :=
  if path.slashes = 0 ∧ path.names = [] then "."
  else String.ofList (List.replicate path.slashes '/') ++ "/".intercalate path.names

/-- Whether a path starts at the root. -/
def isAbsolute (path : Path) : Bool := path.slashes != 0

/-- The path of the directory that holds the last name. -/
def parent (path : Path) : Path := { path with names := path.names.dropLast }

/-- The path behind another one; an absolute one stands for itself. -/
def join (base path : Path) : Path :=
  if path.isAbsolute then path else { base with names := base.names ++ path.names }

/-- One step on the way to a place: two dots lead up, and at the root nowhere. -/
def enter (place : Location) (name : String) : Location :=
  if name = ".." then place.dropLast else if counts name then place ++ [name] else place

/-- The place that a path leads to from a directory, by its names alone. -/
def locate (directory : Location) (path : Path) : Location :=
  path.names.foldl enter (if path.isAbsolute then [] else directory)

/-- The absolute path of a place. -/
def ofLocation (place : Location) : Path := ⟨1, place⟩

end Path

end Runbook
