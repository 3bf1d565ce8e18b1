import Runbook.Disk.Path
import Runbook.Text.Utf8

/-!
# Disks

A disk maps places to files and directories; the root is always a directory. A path is followed
name by name, and every name on the way must lead to a directory.
-/

namespace Runbook

/-- What stands at a place of a disk. -/
inductive DiskEntry where
  | file (bytes : List UInt8) (executable : Bool)
  | directory
  deriving DecidableEq, Repr

/-- Why a disk cannot do what is asked. -/
inductive DiskError where
  | notFound
  | notDirectory
  | isDirectory
  | alreadyThere
  | notEmpty
  | denied
  | nameTooLong
  | nullCharacter
  | badDescriptor
  | badFormat
  deriving DecidableEq, Repr

namespace DiskError

/-- The number of an error. -/
def number : DiskError → Nat
  | notFound => 2
  | denied => 13
  | alreadyThere => 17
  | notDirectory => 20
  | isDirectory => 21
  | nullCharacter => 22
  | badFormat => 8
  | badDescriptor => 9
  | nameTooLong => 36
  | notEmpty => 39

/-- The words for an error. -/
def text : DiskError → String
  | notFound => "No such file or directory"
  | denied => "Permission denied"
  | alreadyThere => "File exists"
  | notDirectory => "Not a directory"
  | isDirectory => "Is a directory"
  | nullCharacter => "Invalid argument"
  | badDescriptor => "Bad file descriptor"
  | badFormat => "Exec format error"
  | nameTooLong => "File name too long"
  | notEmpty => "Directory not empty"

/-- Whether the error only says that nothing is there. -/
def meansAbsent : DiskError → Bool
  | notFound | notDirectory | nullCharacter => true
  | _ => false

end DiskError

/-- The files and directories by their places. -/
structure Disk where
  entries : List (Location × DiskEntry)
  deriving Repr

namespace Disk

/-- What stands at a place. -/
def lookup (disk : Disk) (place : Location) : Option DiskEntry :=
  if place = [] then some .directory else disk.entries.lookup place

/-- Puts something at a place. -/
def insert (disk : Disk) (place : Location) (entry : DiskEntry) : Disk :=
  if disk.entries.any fun other => other.1 = place then
    ⟨disk.entries.map fun other => if other.1 = place then (place, entry) else other⟩
  else ⟨disk.entries ++ [(place, entry)]⟩

/-- Clears a place and all below it. -/
def remove (disk : Disk) (place : Location) : Disk :=
  ⟨disk.entries.filter fun other => !place.isPrefixOf other.1⟩

/-- The names in a directory. -/
def children (disk : Disk) (place : Location) : List String :=
  disk.entries.filterMap fun other =>
    match other.1.getLast? with
    | some name => if other.1.dropLast = place then some name else none
    | none => none

/-- Checks that a directory stands at a place. -/
def checkDirectory (disk : Disk) (place : Location) : Except DiskError Unit :=
  match disk.lookup place with
  | some .directory => .ok ()
  | some (.file _ _) => .error .notDirectory
  | none => .error .notFound

/-- The number of bytes that a name may have. -/
def maxNameBytes : Nat := 255

/-- The number of bytes that the text of a path may have. -/
def maxPathBytes : Nat := 4095

/-- Follows names from a place; nothing has to stand at the last one. -/
def walk (disk : Disk) (place : Location) : List String → Except DiskError Location
  | [] => .ok place
  | name :: names => do
    disk.checkDirectory place
    if maxNameBytes < name.utf8ByteSize then .error .nameTooLong
    else disk.walk (Path.enter place name) names

/-- The place that a text leads to from a directory. -/
def find (disk : Disk) (directory : Location) (text : String) : Except DiskError Location :=
  if text.toList.contains '\x00' then .error .nullCharacter
  else if text = "" then .error .notFound
  else if maxPathBytes < text.utf8ByteSize then .error .nameTooLong
  else disk.walk (if text.front == '/' then [] else directory) (Text.splitString '/' text)

/-- What stands where a text leads to. -/
def stat (disk : Disk) (directory : Location) (text : String) :
    Except DiskError (Location × DiskEntry) := do
  let place ← disk.find directory text
  match disk.lookup place with
  | some entry => .ok (place, entry)
  | none => .error .notFound

/-- The bytes of a file. -/
def read (disk : Disk) (directory : Location) (text : String) : Except DiskError (List UInt8) := do
  match ← disk.stat directory text with
  | (_, .file bytes _) => .ok bytes
  | (_, .directory) => .error .isDirectory

/-- Writes a file, new or old; its directory must be there. -/
def write (disk : Disk) (directory : Location) (text : String) (bytes : List UInt8) :
    Except DiskError Disk := do
  let place ← disk.find directory text
  disk.checkDirectory place.dropLast
  match disk.lookup place with
  | some .directory => .error .isDirectory
  | some (.file _ executable) => .ok (disk.insert place (.file bytes executable))
  | none => .ok (disk.insert place (.file bytes false))

/-- Makes the directories on the way to a place and the place itself, where nothing is yet. -/
def makeDirectories (disk : Disk) (place : Location) : Disk :=
  (List.range place.length).foldl
    (fun disk n =>
      let directory := place.take (n + 1)
      if (disk.lookup directory).isSome then disk else disk.insert directory .directory)
    disk

end Disk

end Runbook
