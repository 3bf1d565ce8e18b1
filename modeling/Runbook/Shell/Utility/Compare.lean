import Runbook.Shell.Utility.Files
import Runbook.Shell.Utility.Lines

/-!
# Comparing texts

Two texts are compared octet by octet, or line by line. Lines that both have in the same order are
kept; the others are told as changes.
-/

namespace Runbook.Shell

/-- Compares two texts octet by octet. -/
def cmp : Program := fun _ =>
  withOptions ⟨"lsbn:", [("verbose", 'l'), ("quiet", 's'), ("silent", 's'), ("print-bytes", 'b'),
    ("bytes", 'n')], false⟩ 2 fun options operands => do
      match operands with
      | [] | [_] =>
        let name := (← get).name
        report ("missing operand after '" ++ operands.headD name ++ "'")
        report ("Try '" ++ name ++ " --help' for more information.")
        return 2
      | first :: second :: _ =>
        let isSilent := hasOption options 's'
        match ← readOperand first, ← readOperand second with
        | .error error, _ => refuse isSilent first error
        | _, .error error => refuse isSilent second error
        | .ok a, .ok b =>
          let limit := (lastValue? options 'n').bind fun text => readNat? 10 text.toList
          let cut (s : List Char) : List Char := limit.elim s s.take
          let (a, b) := (cut a.toList, cut b.toList)
          let differences := (a.zip b).zipIdx.filter fun entry => entry.1.1 != entry.1.2
          let octal (c : Char) : String :=
            String.ofList (padLeft 3 ' ' (Nat.toDigits 8 c.toNat))
          let shorter := if a.length < b.length then some (first, a)
            else if b.length < a.length then some (second, b) else none
          match differences, shorter with
          | [], none => return 0
          | [], some (name, text) =>
            if !isSilent then
              let lines := text.count '\n'
              let place := if text.isEmpty then " which is empty"
                else " after byte " ++ toString text.length ++ ", " ++
                  if text.getLast? = some '\n' then "line " ++ toString lines
                  else "in line " ++ toString (lines + 1)
              report ("EOF on " ++ name ++ place)
            return 1
          | ((x, y), place) :: _, _ =>
            if isSilent then return 1
            else if hasOption options 'l' then
              let width := (decimalDigits (max a.length b.length)).length
              say 1 (String.join (differences.map fun ((x, y), n) =>
                String.ofList (padLeft width ' ' (decimalDigits (n + 1))) ++ " " ++ octal x ++
                  " " ++
                  octal y ++ "\n"))
              match shorter with
              | some (name, text) =>
                report ("EOF on " ++ name ++ " after byte " ++ toString text.length)
              | none => pure ()
              return 1
            else
              let line := (a.take place).count '\n' + 1
              let bytes := if hasOption options 'b' then
                  " is " ++ octal x ++ " " ++ shown x ++ " " ++ octal y ++ " " ++ shown y else ""
              say 1 (first ++ " " ++ second ++ " differ: byte " ++ toString (place + 1) ++
                ", line " ++
                toString line ++ bytes ++ "\n")
              return 1
where
  refuse (isSilent : Bool) (name : String) (error : DiskError) : Act Nat := do
    if !isSilent then report (name ++ ": " ++ error.text)
    return 2
  shown (c : Char) : String := String.ofList (markedOctet true true c)

/-- A line of both texts, of the first one alone, or of the second one alone. -/
inductive LineChange where
  | kept (line : String)
  | removed (line : String)
  | added (line : String)
  deriving DecidableEq, Repr

/-- One row of the table of the lengths of common parts: for a line of the first text, from the
second text's end to its start. -/
def commonRow (same : String → String → Bool) (line : String) (others : List String)
    (below : List Nat) : List Nat :=
  match others, below with
  | other :: others, length :: below =>
    let row := commonRow same line others below
    let right := row.headD 0
    let here := if same line other then below.headD 0 + 1 else max length right
    here :: row
  | _, _ => [0]

/-- The table of the lengths of common parts. -/
def commonTable (same : String → String → Bool) (first second : List String) : List (List Nat) :=
  match first with
  | [] => [List.replicate (second.length + 1) 0]
  | line :: rest =>
    let table := commonTable same rest second
    commonRow same line second (table.headD []) :: table

/-- The changes that lead from a text to another one, along a table. -/
def changesAlong (same : String → String → Bool) (fuel : Nat) (table : List (List Nat))
    (first second : List String) : List LineChange :=
  match fuel with
  | 0 => []
  | fuel + 1 =>
    match first, second with
    | [], [] => []
    | a :: first, [] => .removed a :: changesAlong same fuel (table.drop 1) first []
    | [], b :: second => .added b :: changesAlong same fuel (table.map (·.drop 1)) [] second
    | a :: first, b :: second =>
      if same a b then
        .kept a :: changesAlong same fuel ((table.drop 1).map (·.drop 1)) first second
      else
        let down := ((table.drop 1).headD []).headD 0
        let right := ((table.headD []).drop 1).headD 0
        if right ≤ down then .removed a :: changesAlong same fuel (table.drop 1) first (b :: second)
        else .added b :: changesAlong same fuel (table.map (·.drop 1)) (a :: first) second

/-- The changes that lead from a text to another one. What both start and end with is kept. -/
def lineChanges (same : String → String → Bool) (first second : List String) : List LineChange :=
  let front := ((first.zip second).takeWhile fun (a, b) => same a b).length
  let (a, b) := (first.drop front, second.drop front)
  let back := ((a.reverse.zip b.reverse).takeWhile fun (a, b) => same a b).length
  let (a', b') := (a.take (a.length - back), b.take (b.length - back))
  (first.take front).map .kept ++
    changesAlong same (a'.length + b'.length + 1) (commonTable same a' b') a' b' ++
    (a.drop (a.length - back)).map .kept

/-- Lines that follow each other in both texts: the numbers of those before them and the changes. -/
structure ChangeGroup where
  first : Nat
  second : Nat
  changes : List LineChange

/-- The number of lines of the first text that changes cover, and of the second one. -/
def coveredLines (changes : List LineChange) : Nat × Nat :=
  changes.foldl (fun (a, b) change =>
    match change with
    | .kept _ => (a + 1, b + 1)
    | .removed _ => (a + 1, b)
    | .added _ => (a, b + 1)) (0, 0)

/-- Whether a line is kept. -/
def LineChange.isKept : LineChange → Bool
  | kept _ => true
  | _ => false

/-- The groups of changes that are told together, with so many kept lines around them. -/
def changeGroups (fuel around : Nat) (first second : Nat) (changes : List LineChange) :
    List ChangeGroup :=
  match fuel with
  | 0 => []
  | fuel + 1 =>
    let front := changes.takeWhile LineChange.isKept
    let rest := changes.drop front.length
    if rest.isEmpty then []
    else
      let before := min around front.length
      let skipped := front.length - before
      let (body, behind) := groupBody (rest.length + 1) around rest
      let changes := front.drop skipped ++ body
      let (a, b) := coveredLines changes
      ⟨first + skipped, second + skipped, changes⟩ ::
        changeGroups fuel around (first + skipped + a) (second + skipped + b) behind
where
  groupBody (fuel around : Nat) (changes : List LineChange) : List LineChange × List LineChange :=
    match fuel with
    | 0 => (changes, [])
    | fuel + 1 =>
      let changed := changes.takeWhile fun change => !change.isKept
      let rest := changes.drop changed.length
      let kept := rest.takeWhile LineChange.isKept
      let more := rest.drop kept.length
      if more.isEmpty || 2 * around < kept.length then
        (changed ++ kept.take around, kept.drop around ++ more)
      else
        let (body, behind) := groupBody fuel around more
        (changed ++ kept ++ body, behind)

/-- A line behind a mark; where its end is missing, that is told. -/
def markedLine (mark line : String) : String :=
  if line.endsWith "\n" then mark ++ line
  else mark ++ line ++ "\n\\ No newline at end of file\n"

/-- The numbers of the first and last line of a part. -/
def lineSpan (start count : Nat) : String :=
  if count ≤ 1 then toString (start + count)
  else toString (start + 1) ++ "," ++ toString (start + count)

/-- A group of changes as it is told without lines around it. -/
def ChangeGroup.plain (group : ChangeGroup) : String :=
  let (a, b) := coveredLines group.changes
  let letter := if a = 0 then "a" else if b = 0 then "d" else "c"
  let removed := group.changes.filterMap fun change =>
    match change with
    | .removed line => some (markedLine "< " line)
    | _ => none
  let added := group.changes.filterMap fun change =>
    match change with
    | .added line => some (markedLine "> " line)
    | _ => none
  lineSpan group.first a ++ letter ++ lineSpan group.second b ++ "\n" ++ String.join removed ++
    (if a = 0 || b = 0 then "" else "---\n") ++ String.join added

/-- A group of changes as it is told with lines around it. -/
def ChangeGroup.unified (group : ChangeGroup) : String :=
  let (a, b) := coveredLines group.changes
  let span (start count : Nat) : String :=
    if count = 0 then toString start ++ ",0"
    else if count = 1 then toString (start + 1)
    else toString (start + 1) ++ "," ++ toString count
  "@@ -" ++ span group.first a ++ " +" ++ span group.second b ++ " @@\n" ++
    String.join (ordered group.changes [])
where
  ordered : List LineChange → List String → List String
    | [], added => added
    | .kept line :: rest, added => added ++ markedLine " " line :: ordered rest []
    | .removed line :: rest, added => markedLine "-" line :: ordered rest added
    | .added line :: rest, added => ordered rest (added ++ [markedLine "+" line])

/-- How lines are compared: letters of both cases may be alike, and blanks may not count. -/
def alikeLines (options : List (Char × String)) (a b : String) : Bool :=
  let isBlank (c : Char) : Bool := c == ' ' || c == '\t'
  let squeeze (s : List Char) : List Char :=
    (s.splitBy fun a b => isBlank a && isBlank b).flatMap fun run =>
      if run.head?.any isBlank then [' '] else run
  let norm (line : String) : List Char :=
    let s := line.toList.takeWhile (· != '\n')
    let s := if hasOption options 'i' then s.map Char.toLower else s
    if hasOption options 'w' then s.filter (!isBlank ·)
    else if hasOption options 'b' then (((squeeze s).reverse.dropWhile isBlank)).reverse
    else s
  let ends (line : String) : Bool := line.endsWith "\n"
  norm a == norm b && (ends a == ends b || hasOption options 'w' || hasOption options 'b')

/-- Tells how two texts differ; `title` stands before that. -/
def compareTexts (options : List (Char × String)) (title first second a b : String) : Act Nat := do
  let changes := lineChanges (alikeLines options) (endedLines a) (endedLines b)
  if changes.all LineChange.isKept then
    if hasOption options 's' then
      say 1 ("Files " ++ first ++ " and " ++ second ++ " are identical\n")
    return 0
  else if hasOption options 'q' then
    say 1 ("Files " ++ first ++ " and " ++ second ++ " differ\n")
    return 1
  else
    let width? := if hasOption options 'u' then some 3
      else ((lastValue? options 'U').bind fun text => readNat? 10 text.toList)
    match width? with
    | none =>
      let groups := changeGroups (changes.length + 1) 0 0 0 changes
      say 1 (title ++ String.join (groups.map ChangeGroup.plain))
    | some around =>
      let groups := changeGroups (changes.length + 1) around 0 0 changes
      let labels := (options.filter fun option => option.1 == 'L').map (·.2)
      let stamp := "\t1970-01-01 00:00:00.000000000 +0000"
      say 1 (title ++ "--- " ++ labels.getD 0 (first ++ stamp) ++ "\n+++ " ++
        labels.getD 1 (second ++ stamp) ++ "\n" ++ String.join (groups.map ChangeGroup.unified))
    return 1

/-- Compares the files of two directories, and those below them if asked for. -/
def compareDirectories (fuel : Nat) (options : List (Char × String)) (words : String)
    (first second : String) (a b : Location) : Act Nat :=
  match fuel with
  | 0 => return 2
  | fuel + 1 => do
    let disk ← theDisk
    let (inFirst, inSecond) := (disk.children a, disk.children b)
    let all := (inFirst ++ inSecond.filter fun name => !inFirst.contains name).mergeSort
    all.foldlM (fun status name => do
      let (place, place') := (a ++ [name], b ++ [name])
      let shown := Text.encode name
      let (path, path') := (pathBelow first shown, pathBelow second shown)
      let result ←
        match disk.lookup place, disk.lookup place' with
        | some .directory, some .directory =>
          if hasOption options 'r' then
            compareDirectories fuel options words path path' place place'
          else
            say 1 ("Common subdirectories: " ++ path ++ " and " ++ path' ++ "\n")
            pure 0
        | some (.file x _), some (.file y _) =>
          compareTexts options ("diff" ++ words ++ " " ++ path ++ " " ++ path' ++ "\n") path path'
            (Text.ofBytes x) (Text.ofBytes y)
        | some _, some _ =>
          say 1 ("File " ++ path ++ " differs from " ++ path' ++ " in kind\n")
          pure 1
        | some _, none =>
          say 1 ("Only in " ++ first ++ ": " ++ shown ++ "\n")
          pure 1
        | none, _ =>
          say 1 ("Only in " ++ second ++ ": " ++ shown ++ "\n")
          pure 1
      return max status result) 0

/-- Tells how files or directories differ. -/
def diff : Program := fun _ arguments =>
  withOptions ⟨"uU:qrsiwbBNaL:c", [("unified", 'u'), ("brief", 'q'), ("recursive", 'r'),
    ("report-identical-files", 's'), ("ignore-case", 'i'), ("ignore-all-space", 'w'),
    ("ignore-space-change", 'b'), ("new-file", 'N'), ("text", 'a'), ("label", 'L'),
    ("color", 'a')], false⟩ 2
    (fun options operands => do
      let name := (← get).name
      let refuseUse (message : String) : Act Nat := do
        report message
        report ("Try '" ++ name ++ " --help' for more information.")
        return 2
      let refuse (path : String) (error : DiskError) : Act Nat := do
        report (path ++ ": " ++ error.text)
        return 2
      match operands with
      | [] | [_] => refuseUse ("missing operand after '" ++ operands.headD name ++ "'")
      | _ :: _ :: extra :: _ => refuseUse ("extra operand '" ++ extra ++ "'")
      | [first, second] =>
        match ← placeOf first, ← placeOf second with
        | some (a, .directory), some (b, .directory) =>
          let words := String.join (((arguments.filter (·.startsWith "-")).filter (· != "-")).map
            (" " ++ ·))
          compareDirectories 64 options words first second a b
        | one, other =>
          let isDirectory (found : Option (Location × DiskEntry)) : Bool :=
            found.any fun found => found.2 = .directory
          let first' := if isDirectory one then pathBelow first (lastName second) else first
          let second' := if isDirectory other then pathBelow second (lastName first) else second
          let read (path : String) : Act (Except DiskError String) := do
            match ← readOperand path with
            | .error error =>
              return if hasOption options 'N' && error.meansAbsent then .ok "" else .error error
            | found => return found
          match ← read first', ← read second' with
          | .ok a, .ok b => compareTexts options "" first' second' a b
          | .error error, .ok _ => refuse first' error
          | .ok _, .error error => refuse second' error
          | .error error, .error error' =>
            let _ ← refuse first' error
            refuse second' error')
    arguments
where
  placeOf (path : String) : Act (Option (Location × DiskEntry)) := do
    if path = "-" then return none else return (← entryAt path).toOption

end Runbook.Shell
