import Runbook.Shell.Lookup
import Runbook.Shell.Utility.Table

/-!
# Programs on the disk

The file of a known program holds a mark and the name of the program. Any other file that can be run
is a script: its first line may name the program that reads it.
-/

namespace Runbook.Shell

/-- The names of shells. -/
def shellNames : List (String × Dialect) :=
  [("sh", .common), ("dash", .common), ("bash", .extended), ("rbash", .extended)]

/-- What a file holds that can be run. -/
inductive Executable where
  | shell (dialect : Dialect)
  | known (program : Program)
  | script (interpreter : String) (argument : Option String)
  | unmarked

/-- The bytes that the file of a known program starts with. -/
def binaryMark : List UInt8 := [0x7f, 0x45, 0x4c, 0x46]

/-- The bytes of the file of a known program. -/
def binaryBytes (name : String) : List UInt8 := binaryMark ++ Text.toBytes name

/-- What the bytes of a file make it. -/
def Executable.ofBytes (bytes : List UInt8) : Executable :=
  let octets := Text.ofBytes bytes
  if binaryMark.isPrefixOf bytes then
    let name := String.ofList (octets.toList.drop binaryMark.length)
    match shellNames.lookup name, programs.lookup name with
    | some dialect, _ => .shell dialect
    | none, some program => .known program
    | none, none => .unmarked
  else
    match octets.toList with
    | '#' :: '!' :: rest =>
      let isBlank (c : Char) : Bool := c == ' ' || c == '\t'
      let line := (rest.takeWhile (· != '\n')).dropWhile isBlank
      let line := (line.reverse.dropWhile isBlank).reverse
      let interpreter := line.takeWhile (!isBlank ·)
      let argument := (line.drop interpreter.length).dropWhile isBlank
      .script (String.ofList interpreter)
        (if argument.isEmpty then none else some (String.ofList argument))
    | _ => .unmarked

/-- The directories that are there from the start. -/
def standardDirectories : List Location :=
  [["bin"], ["boot"], ["dev"], ["etc"], ["home"], ["lib"], ["media"], ["mnt"], ["opt"], ["proc"],
   ["root"], ["run"], ["sbin"], ["srv"], ["sys"], ["tmp"], ["usr"], ["usr", "bin"],
   ["usr", "lib"], ["usr", "local"], ["usr", "local", "bin"], ["usr", "sbin"], ["usr", "share"],
   ["var"], ["var", "tmp"]]

/-- The files that are there from the start. -/
def standardFiles : List (Location × DiskEntry) :=
  let names := shellNames.map (·.1) ++ programs.map (·.1)
  names.flatMap fun name =>
    let entry : DiskEntry := .file (binaryBytes name) true
    [(["usr", "bin", name], entry), (["bin", name], entry)]

/-- All that is there from the start. -/
def standardEntries : List (Location × DiskEntry) :=
  standardDirectories.map (fun place => (place, .directory)) ++ standardFiles

/-- A disk with what is there from the start. -/
def furnished (disk : Disk) : Disk :=
  ⟨disk.entries ++ standardEntries.filter fun entry => (disk.lookup entry.1).isNone⟩

/-- A disk without what was there from the start and is not on another disk. -/
def unfurnished (before after : Disk) : Disk :=
  let standard := standardEntries
  ⟨after.entries.filter fun entry =>
    (before.lookup entry.1).isSome || standard.lookup entry.1 != some entry.2⟩

end Runbook.Shell
