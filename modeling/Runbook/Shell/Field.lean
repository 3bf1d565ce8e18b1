import Runbook.Disk.Tree
import Runbook.Shell.Machine
import Runbook.Shell.Pattern

/-!
# Fields

The words of a command become fields when it is run. Text found by a substitution outside quotes is
cut at separators; quoted text never is. A field that is a pattern becomes the names that it stands
for, if there are any.
-/

namespace Runbook.Shell

/-- A piece of an expanded word: a character of the word itself, one that was found, the place where
found text starts, a place where a field exists even without characters, or a place where a field
ends in any case. -/
inductive Mark where
  | char (c : Char) (quoted : Bool)
  | found (c : Char)
  | region
  | present
  | cut
  deriving DecidableEq, Repr

/-- The marks of text that stands in a word. -/
def literalMarks (text : String) (quoted : Bool) : List Mark :=
  (if quoted then [.present] else []) ++ text.toList.map fun c => .char c quoted

/-- The marks of text that a substitution gave. -/
def foundMarks (text : String) (quoted : Bool) : List Mark :=
  if quoted then .present :: text.toList.map fun c => .char c true
  else .region :: text.toList.map .found

/-- The marks of quoted texts that stay apart. -/
def apartMarks (texts : List String) : List Mark :=
  ((texts.map fun text => foundMarks text true).intersperse [.cut]).flatten

/-- Lets unquoted text be cut at separators. -/
def splittingMarks : List Mark → List Mark
  | [] => []
  | .char c false :: rest => .region :: .found c :: splittingRun rest
  | mark :: rest => mark :: splittingMarks rest
where
  splittingRun : List Mark → List Mark
    | .char c false :: rest => .found c :: splittingRun rest
    | mark :: rest => mark :: splittingMarks rest
    | [] => []

/-- The characters of marks, with their quoting. -/
def markedText (marks : List Mark) : List Marked :=
  marks.filterMap fun
    | .char c quoted => some (c, quoted)
    | .found c => if c == '\x00' then some (' ', false) else some (c, false)
    | .cut => some (' ', true)
    | .region | .present => none

/-- The text of marks. -/
def plainText (marks : List Mark) : String := String.ofList ((markedText marks).map (·.1))

/-- How separators behind a field are passed over: blank ones always, and one other where the field
ended at a blank one. -/
inductive Passing where
  | no
  | blanks
  | blanksAndOne
  deriving DecidableEq, Repr

/-- The fields of marks: `field` is the one under way. Text from the end of a substitution is never
joined to separators before it. -/
def fieldsFrom (separators : List Char) (field : Option (List Marked)) (passing : Passing) :
    List Mark → List (List Marked)
  | [] => (field.map List.reverse).toList
  | .region :: rest => fieldsFrom separators field .no rest
  | .present :: rest => fieldsFrom separators (some (field.getD [])) .no rest
  | .cut :: rest => (field.getD []).reverse :: fieldsFrom separators none .no rest
  | .char c quoted :: rest =>
    fieldsFrom separators (some ((c, quoted) :: field.getD [])) .no rest
  | .found c :: rest =>
    if c == '\x00' || separators.contains c then
      let isBlank := c == '\x00' || standardSeparators.toList.contains c
      match passing, isBlank with
      | .blanks, true | .blanksAndOne, true => fieldsFrom separators none passing rest
      | .blanksAndOne, false => fieldsFrom separators none .blanks rest
      | _, true =>
        match field with
        | none => fieldsFrom separators none .no rest
        | some field => field.reverse :: fieldsFrom separators none .blanksAndOne rest
      | _, false => (field.getD []).reverse :: fieldsFrom separators none .blanks rest
    else fieldsFrom separators (some ((c, false) :: field.getD [])) .no rest

/-- The patterns that a shell knows. -/
def Machine.patternStyle (machine : Machine) : PatternStyle :=
  ⟨machine.isExtended, machine.settings.contains "extglob", false⟩

/-- The patterns that a shell compares texts with. -/
def Machine.comparingStyle (machine : Machine) : PatternStyle :=
  { machine.patternStyle with anyCase := machine.settings.contains "nocasematch" }

/-- The patterns that a shell looks for names with. -/
def Machine.namingStyle (machine : Machine) : PatternStyle :=
  { machine.patternStyle with anyCase := machine.settings.contains "nocaseglob" }

/-- The characters of a text in the unit of patterns: octets, or whole characters. -/
def Machine.units (machine : Machine) (octets : String) : List Char :=
  match machine.dialect with
  | .common => octets.toList
  | .extended => (Text.decode octets).toList

/-- The octets of units. -/
def Machine.fromUnits (machine : Machine) (units : List Char) : String :=
  match machine.dialect with
  | .common => String.ofList units
  | .extended => Text.encode (String.ofList units)

/-- The marked characters in the unit of patterns; only unbroken runs of quoted or unquoted octets
make characters. -/
def Machine.markedUnits (machine : Machine) (text : List Marked) : List Marked :=
  match machine.dialect with
  | .common => text
  | .extended =>
    (text.splitBy fun a b => a.2 == b.2).flatMap fun run =>
      (machine.units (String.ofList (run.map (·.1)))).map fun c => (c, run.head?.any (·.2))

/-- The pattern that a marked text spells. -/
def Machine.pattern (machine : Machine) (style : PatternStyle) (text : List Marked) :
    List PatternPart :=
  patternOf style (machine.markedUnits text)

/-- The patterns of names that other patterns do not stand for. -/
def Machine.ignoredNames (machine : Machine) : List (List PatternPart) :=
  match machine.isExtended, machine.textOf? "GLOBIGNORE" with
  | true, some text =>
    ((text.splitOn ":").filter (· != "")).map fun part =>
      machine.pattern machine.namingStyle (part.toList.map fun c => (c, false))
  | _, _ => []

/-- Whether patterns stand for names with a dot in front. -/
def Machine.namesDots (machine : Machine) : Bool :=
  machine.settings.contains "dotglob" || !machine.ignoredNames.isEmpty

/-- The names that a part of a pattern stands for in a directory. -/
def namesMatching (machine : Machine) (disk : Disk) (place : Location) (part : List Marked) :
    List String :=
  let pattern := machine.pattern machine.namingStyle part
  let hidden := part.head?.any fun c => c.1 == '.'
  let skipsDots := machine.isExtended &&
    (machine.settings.contains "globskipdots" || machine.namesDots)
  let dots := if hidden && !skipsDots then [".", ".."] else []
  let names := (disk.children place).map Text.encode ++ dots
  names.filter fun name =>
    (hidden || machine.namesDots || name.front != '.') &&
      matchesPattern pattern (machine.units name)

/-- A text between its slashes. -/
def namesOf : List Marked → List (List Marked)
  | [] => [[]]
  | (c, quoted) :: rest =>
    if c == '/' then [] :: namesOf rest
    else
      match namesOf rest with
      | first :: others => ((c, quoted) :: first) :: others
      | [] => [[(c, quoted)]]

/-- The text that a part of a path spells if it is no pattern. -/
def partText : List Marked → String
  | [] => ""
  | ('\\', false) :: (c, _) :: rest => String.ofList [c] ++ partText rest
  | (c, _) :: rest => String.ofList [c] ++ partText rest

/-- The places of all directories at or below another one, with their paths behind it. -/
def directoriesBelow (fuel : Nat) (dotsToo : Bool) (disk : Disk) (place : Location)
    (front : String) :
    List (Location × String) :=
  match fuel with
  | 0 => []
  | fuel + 1 =>
    let names := (disk.children place).filter fun name =>
      (dotsToo || name.front != '.') && disk.lookup (place ++ [name]) = some .directory
    (place, front) :: names.mergeSort.flatMap fun name =>
      directoriesBelow fuel dotsToo disk (place ++ [name]) (front ++ Text.encode name ++ "/")

/-- The parts of a path at any depth, where the language has them. -/
def Machine.isAnyDepth (machine : Machine) (part : List Marked) : Bool :=
  machine.settings.contains "globstar" && part = [('*', false), ('*', false)]

/-- The paths that a pattern stands for below a place; each part of the pattern is one name. -/
def pathsBelow (machine : Machine) (disk : Disk) (place : Location) (front : String) :
    List (List Marked) → List String
  | [] => [front]
  | part :: parts =>
    let behind (name : String) : List String :=
      let next := Path.enter place (diskPath name)
      let isLast := parts.isEmpty
      let isThere :=
        if isLast then (disk.lookup next).isSome else disk.lookup next = some .directory
      if isThere then
        pathsBelow machine disk next (front ++ name ++ (if isLast then "" else "/")) parts
      else []
    if isPattern machine.patternStyle part then
      if machine.isAnyDepth part then
        let all := directoriesBelow 64 machine.namesDots disk place front
        if parts.isEmpty then
          (if front = "" then [] else [front]) ++ all.flatMap fun (place, front) =>
            (namesMatching machine disk place [('*', false)]).map (front ++ ·)
        else if parts = [[]] then (all.map (·.2)).filter (· != "")
        else all.flatMap fun (place, front) => pathsBelow machine disk place front parts
      else (namesMatching machine disk place part).flatMap behind
    else if part.isEmpty then
      if parts.isEmpty then
        if disk.lookup place = some .directory then [front] else []
      else pathsBelow machine disk place (front ++ "/") parts
    else behind (partText part)
where
  diskPath (octets : String) : String := Text.decode octets

/-- The names that a field stands for; nothing if it is no pattern. -/
def namedBy? (machine : Machine) (disk : Disk) (field : List Marked) : Option (List String) :=
  let text := String.ofList (field.map (·.1))
  if !machine.has 'f' && isPattern machine.patternStyle field then
    let place := if text.front == '/' then [] else machine.directory
    let isIgnored (path : String) : Bool :=
      machine.ignoredNames.any fun pattern => matchesPattern pattern (machine.units path)
    some ((pathsBelow machine disk place "" (namesOf field)).filter (!isIgnored ·)).mergeSort
  else none

/-- What a field stands for: the names it matches, or else its text. A setting may ask for nothing
where no name matches; another one makes that a fault, with the text. -/
def namedBy (machine : Machine) (disk : Disk) (field : List Marked) : Except String (List String) :=
  let text := String.ofList (field.map (·.1))
  match namedBy? machine disk field with
  | none => .ok [text]
  | some [] =>
    if machine.settings.contains "failglob" then .error text
    else .ok (if machine.settings.contains "nullglob" then [] else [text])
  | some paths => .ok paths

/-- The texts of the fields of marks, or the text of a pattern that must stand for names. -/
def fieldTexts (machine : Machine) (disk : Disk) (marks : List Mark) :
    Except String (List String) :=
  (fieldsFrom machine.separators none .no marks).foldlM
    (fun found field => (namedBy machine disk field).map (found ++ ·)) []

/-- The parts of a line for so many variables: the last one takes what is left, without a separator
that only ends it. A marked character is never a separator. -/
def lineParts (separators : List Char) (count : Nat) (line : List Marked) : List String :=
  let isSeparator (c : Marked) : Bool := !c.2 && separators.contains c.1
  let isBlank (c : Marked) : Bool := isSeparator c && standardSeparators.toList.contains c.1
  let text (s : List Marked) : String := String.ofList (s.map (·.1))
  let line := line.dropWhile isBlank
  match count with
  | 0 => []
  | 1 =>
    let kept := (line.reverse.dropWhile isBlank).reverse
    let first := kept.takeWhile (!isSeparator ·)
    let behind := (kept.drop first.length).dropWhile isBlank
    match behind with
    | [c] => if isSeparator c && !isBlank c then [text first] else [text kept]
    | _ => [text kept]
  | count + 1 =>
    let first := line.takeWhile (!isSeparator ·)
    let behind := (line.drop first.length).dropWhile isBlank
    let behind :=
      if behind.head?.any isSeparator then (behind.drop 1).dropWhile isBlank else behind
    text first :: lineParts separators count behind

end Runbook.Shell
