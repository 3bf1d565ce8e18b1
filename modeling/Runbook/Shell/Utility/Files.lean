import Runbook.Shell.Builtin.Place
import Runbook.Shell.Utility.Basic

/-!
# Programs for files

These programs look at and change what is on the disk. A failure is told in the usual words and does
not keep the other operands from their turn.
-/

namespace Runbook.Shell

/-- How a line is shown: with its number, with marks for its end and for what cannot be seen. -/
structure LineShow where
  numbers : Bool
  onlyFull : Bool
  squeezes : Bool
  ends : Bool
  tabs : Bool
  marks : Bool

/-- An octet as it is shown when what cannot be seen is marked. -/
def markedOctet (marks tabs : Bool) (c : Char) : List Char :=
  let low (n : Nat) : List Char :=
    if n < 32 then ['^', Char.ofNat (n + 64)]
    else if n = 127 then ['^', '?'] else [Char.ofNat n]
  if c == '\t' then (if tabs then ['^', 'I'] else [c])
  else if c == '\n' || !marks then [c]
  else if c.toNat < 128 then low c.toNat
  else ['M', '-'] ++ low (c.toNat - 128)

/-- Lines as they are shown; `number` is that of the next line, `wasEmpty` tells of the line
before. -/
def shownLines (show' : LineShow) (number : Nat) (wasEmpty : Bool) : List String → List String × Nat
  | [] => ([], number)
  | line :: rest =>
    let isEmpty := line = "\n"
    if show'.squeezes && isEmpty && wasEmpty then shownLines show' number true rest
    else
      let body := line.toList.takeWhile (· != '\n')
      let hasEnd := body.length < line.length
      let isNumbered := show'.numbers && !(show'.onlyFull && isEmpty)
      let front := if isNumbered then padLeft 6 ' ' (decimalDigits number) ++ ['\t'] else []
      let text := body.flatMap (markedOctet show'.marks show'.tabs)
      let ending := (if show'.ends && hasEnd then ['$'] else []) ++ if hasEnd then ['\n'] else []
      let (more, last) := shownLines show' (if isNumbered then number + 1 else number) isEmpty rest
      (String.ofList (front ++ text ++ ending) :: more, last)

/-- Whether what is read from a descriptor would be written behind itself. -/
def writesItself (descriptor : Nat) : Act Bool := do
  let me ← myself
  Act.look fun state =>
    match state.stream? me descriptor, state.stream? me 1 with
    | some ⟨.file source, position, _, _, _⟩, some ⟨.file target, _, _, _, _⟩ =>
      source = target && position < ((state.fileText? source).getD []).length
    | _, _ => false

/-- Writes files, or the input, one after another. -/
def cat : Program := fun _ =>
  withOptions ⟨"nbAsETuvet", [("number", 'n'), ("number-nonblank", 'b'), ("show-all", 'A'),
    ("squeeze-blank", 's'), ("show-ends", 'E'), ("show-tabs", 'T')], false⟩ 1
    fun options operands => do
      let has (letter : Char) : Bool := hasOption options letter
      let all := has 'A'
      let shown : LineShow :=
        ⟨has 'n' || has 'b', has 'b', has 's', has 'E' || has 'e' || all, has 'T' || has 't' || all,
          has 'v' || has 'e' || has 't' || all⟩
      let isPlain := options.all fun option => option.1 == 'u'
      let mut number := 1
      let mut status := 0
      for operand in (if operands.isEmpty then ["-"] else operands) do
        let outcome : Except DiskError (Option (Except DiskError Nat)) ←
          withOperand operand fun descriptor => do
            if ← writesItself descriptor then return none
            else if isPlain then
              return some (((← passOn descriptor (say 1)).elim (.ok number)) .error)
            else
              match ← readAll descriptor with
              | .error error => return some (.error error)
              | .ok text =>
                let (lines, next) := shownLines shown number false (endedLines text)
                say 1 (String.join lines)
                return some (.ok next)
        match outcome with
        | .ok (some (.ok next)) => number := next
        | .ok none =>
          report (shownFile operand ++ ": input file is output file")
          status := 1
        | .error error | .ok (some (.error error)) =>
          report (shownFile operand ++ ": " ++ error.text)
          status := 1
      return status

/-- The names in a directory that are shown, in order. -/
def shownNames (disk : Disk) (place : Location) (all almost : Bool) : List String :=
  let names := (disk.children place).map Text.encode
  let names := if all || almost then names else names.filter fun name => name.front != '.'
  ((if all then [".", ".."] else []) ++ names).mergeSort

/-- A name with a mark for its kind. -/
def classified (options : List (Char × String)) (entry : Option DiskEntry) (name : String) :
    String :=
  let marksAll := hasOption options 'F'
  match entry with
  | some .directory => if marksAll || hasOption options 'p' then name ++ "/" else name
  | some (.file _ true) => if marksAll then name ++ "*" else name
  | _ => name

/-- The bits of the mode of an entry, in letters. -/
def entryMode : DiskEntry → String
  | .directory => "drwxr-xr-x"
  | .file _ true => "-rwxr-xr-x"
  | .file _ false => "-rw-r--r--"

/-- The lines for names in a directory. -/
def listingLines (options : List (Char × String)) (disk : Disk) (place : Location)
    (names : List String) : String :=
  let names := if hasOption options 'r' then names.reverse else names
  let entry (name : String) : Option DiskEntry := disk.lookup (Path.enter place (diskPath name))
  let shown := names.map fun name => classified options (entry name) name
  if hasOption options 'm' then
    if shown.isEmpty then "" else ", ".intercalate shown ++ "\n"
  else if hasOption options 'l' then
    "total 0\n" ++ String.join ((names.zip shown).map fun (name, text) =>
      let size : Nat :=
        match entry name with
        | some (.file bytes _) => bytes.length
        | _ => 4096
      ((entry name).map entryMode).getD "?" ++ " 1 root root " ++ toString size ++
        " Jan  1 00:00 " ++
        text ++ "\n")
  else String.join (shown.map (· ++ "\n"))

/-- The listing of a directory, and of those below it if asked for; each has a title if there are
several. -/
def directoryListing (fuel : Nat) (options : List (Char × String)) (disk : Disk) (titled : Bool)
    (name : String) (place : Location) : List String :=
  match fuel with
  | 0 => []
  | fuel + 1 =>
    let names := shownNames disk place (hasOption options 'a') (hasOption options 'A')
    let title := if titled then name ++ ":\n" else ""
    let here := title ++ listingLines options disk place names
    let below := names.filter fun name =>
      name != "." && name != ".." && disk.lookup (place ++ [diskPath name]) = some .directory
    here :: if hasOption options 'R' then
        below.flatMap fun child =>
          directoryListing fuel options disk titled
            (if name.endsWith "/" then name ++ child else name ++ "/" ++ child)
            (place ++ [diskPath child])
      else []

/-- Lists files and directories, one name a line. -/
def ls : Program := fun _ =>
  withOptions ⟨"aA1dFprRlmCxhtSsinogqkUvXbBc", [("all", 'a'), ("almost-all", 'A'),
    ("directory", 'd'), ("recursive", 'R'), ("reverse", 'r'), ("classify", 'F')], false⟩ 2
    fun options operands => do
      let disk ← theDisk
      let asked := if operands.isEmpty then ["."] else operands.mergeSort
      let found ← asked.mapM fun name => return (name, ← entryAt name)
      let status ← forOperands (fun name => do
        match ← entryAt name with
        | .ok _ => return 0
        | .error error =>
          report ("cannot access " ++ namedFile name ++ ": " ++ error.text)
          return 2) asked
      let there := found.filterMap fun (name, entry) =>
        entry.toOption.map fun (place, entry) => (name, place, entry)
      let isListed (entry : DiskEntry) : Bool := entry = .directory && !hasOption options 'd'
      let plain := (there.filter fun f => !isListed f.2.2).map fun f =>
        classified options (some f.2.2) f.1 ++ "\n"
      let directories := there.filter fun f => isListed f.2.2
      let titled := 1 < asked.length || hasOption options 'R'
      let turned {α : Type} (l : List α) : List α := if hasOption options 'r' then l.reverse else l
      let listed := (turned directories).flatMap fun (name, place, _) =>
        directoryListing 64 options disk titled name place
      let blocks := (if plain.isEmpty then [] else [String.join (turned plain)]) ++ listed
      say 1 ("\n".intercalate blocks)
      return status

/-- Makes one directory. -/
def makeDirectory (name : String) : Act (Option DiskError) := do
  let directory := (← get).directory
  changeDisk fun disk => do
    let place ← disk.find directory (diskPath name)
    disk.checkDirectory place.dropLast
    if (disk.lookup place).isSome then .error .alreadyThere
    else .ok (disk.insert place .directory)

/-- The paths on the way to a path, and the path itself. -/
def pathsOnWay (path : String) : List String :=
  let names := path.splitOn "/"
  ((List.range names.length).map fun n => "/".intercalate (names.take (n + 1))).filter (· != "")

/-- Makes the directories on the way to a path and the last one; those that are there stay. -/
def makeOnWay (verbose : Bool) (path : String) : List String → Act (Option (String × DiskError))
  | [] => return none
  | here :: rest => do
    match ← entryAt here with
    | .ok (_, .directory) => makeOnWay verbose path rest
    | .ok _ =>
      return some (here, if rest.isEmpty then .alreadyThere else .notDirectory)
    | .error _ =>
      match ← makeDirectory here with
      | none =>
        if verbose then
          say 1 ((← get).name ++ ": created directory " ++ namedFile here ++ "\n")
        makeOnWay verbose path rest
      | some error => return some (here, error)

/-- Makes directories; with the option for parents, those on the way too. -/
def mkdir : Program := fun _ =>
  withOptions ⟨"pvm:", [("parents", 'p'), ("verbose", 'v'), ("mode", 'm')], false⟩ 1
    fun options => needing "operand" <| forOperands fun operand => do
      let verbose := hasOption options 'v'
      let refuse (name : String) (error : DiskError) : Act Nat := do
        report ("cannot create directory ‘" ++ name ++ "’: " ++ error.text)
        return 1
      if hasOption options 'p' then
        if operand = "" then refuse "" .notFound
        else
          match ← makeOnWay verbose operand (pathsOnWay operand) with
          | none => return 0
          | some (name, error) => refuse name error
      else
        match ← makeDirectory operand with
        | none =>
          if verbose then
            say 1 ((← get).name ++ ": created directory " ++ namedFile operand ++ "\n")
          return 0
        | some error => refuse operand error

/-- Removes an empty directory. -/
def removeDirectory (name : String) : Act (Option DiskError) := do
  let directory := (← get).directory
  changeDisk fun disk => do
    let (place, entry) ← disk.stat directory (diskPath name)
    if entry != .directory then .error .notDirectory
    else if !(disk.children place).isEmpty then .error .notEmpty
    else .ok (disk.remove place)

/-- Removes empty directories. -/
def rmdir : Program := fun _ =>
  withOptions
    ⟨"pv", [("parents", 'p'), ("verbose", 'v'), ("ignore-fail-on-non-empty", 'i')], false⟩ 1
    fun options => needing "operand" <| forOperands fun operand => do
      let paths := if hasOption options 'p' then (pathsOnWay operand).reverse else [operand]
      removeAll paths paths
where
  removeAll (all : List String) : List String → Act Nat
    | [] => return 0
    | path :: rest => do
      match ← removeDirectory path with
      | none => removeAll all rest
      | some error =>
        report ("failed to remove " ++
          (if all.length = rest.length + 1 then "" else "directory ") ++
          namedFile path ++ ": " ++ error.text)
        return 1

/-- Removes files, and directories if asked for. -/
def rm : Program := fun _ =>
  withOptions
    ⟨"rRfdiIv", [("recursive", 'r'), ("force", 'f'), ("dir", 'd'), ("verbose", 'v')], false⟩ 1
    fun options operands =>
      if hasOption options 'f' && operands.isEmpty then return 0
      else needing "operand" (forOperands (remove options)) operands
where
  remove (options : List (Char × String)) (operand : String) : Act Nat := do
    let isRecursive := hasOption options 'r' || hasOption options 'R'
    let isDots := ((operand.splitOn "/").filter (· != "")).getLast?.any fun name =>
      name = "." || name = ".."
    let refuse (reason : String) : Act Nat := do
      report ("cannot remove " ++ namedFile operand ++ ": " ++ reason)
      return 1
    match ← entryAt operand with
    | .error error =>
      if hasOption options 'f' && error.meansAbsent then return 0 else refuse error.text
    | .ok (place, .directory) =>
      if isRecursive then
        if place.isEmpty then
          report "it is dangerous to operate recursively on '/'"
          report "use --no-preserve-root to override this failsafe"
          return 1
        else if isDots then
          report ("refusing to remove '.' or '..' directory: skipping " ++ namedFile operand)
          return 1
        else
          Act.change fun state => { state with disk := state.disk.remove place }
          if hasOption options 'v' then say 1 ("removed directory " ++ namedFile operand ++ "\n")
          return 0
      else if hasOption options 'd' then
        match ← removeDirectory operand with
        | none => return 0
        | some error => refuse error.text
      else refuse (DiskError.text .isDirectory)
    | .ok (place, _) =>
      Act.change fun state => { state with disk := state.disk.remove place }
      if hasOption options 'v' then say 1 ("removed " ++ namedFile operand ++ "\n")
      return 0

/-- Makes files that are not there yet. -/
def touch : Program := fun _ =>
  withOptions ⟨"acmhd:t:r:", [("no-create", 'c'), ("date", 'd'), ("reference", 'r')], false⟩ 1
    fun options operands =>
      if operands.isEmpty then refuseUsage "missing file operand" 1
      else
        forOperands (fun operand => do
          match ← entryAt operand with
          | .ok _ => return 0
          | .error error =>
            if hasOption options 'c' && error.meansAbsent then return 0
            else
              match ← openPath operand .append with
              | .ok _ => return 0
              | .error error =>
                report ("cannot touch " ++ namedFile operand ++ ": " ++ error.text)
                return 1) operands

/-- A disk with what stands at a place, and all below it, at another place too. -/
def copyTree (disk : Disk) (source target : Location) : Disk :=
  (disk.entries.filter fun other => source.isPrefixOf other.1).foldl
    (fun disk (place, entry) => disk.insert (target ++ place.drop source.length) entry) disk

/-- The path of a name in a directory. -/
def pathBelow (directory name : String) : String :=
  if directory.endsWith "/" then directory ++ name else directory ++ "/" ++ name

/-- The last name of a path. -/
def lastName (path : String) : String :=
  (((path.splitOn "/").filter (· != "")).getLast?).getD (if path = "" then "" else "/")

/-- Copies or moves one operand to a path. -/
def transfer (moves : Bool) (options : List (Char × String)) (source target : String) :
    Act Nat := do
  let refuse (text : String) : Act Nat := do
    report text
    return 1
  let refuseMove (error : DiskError) : Act Nat :=
    refuse ("cannot move " ++ namedFile source ++ " to " ++ namedFile target ++ ": " ++ error.text)
  let refuseNew (kind : String) (error : DiskError) : Act Nat :=
    refuse ("cannot create " ++ kind ++ namedFile target ++ ": " ++ error.text)
  match ← entryAt source with
  | .error error => refuse ("cannot stat " ++ namedFile source ++ ": " ++ error.text)
  | .ok (place, entry) =>
    let isRecursive := moves || "rRa".toList.any fun c => hasOption options c
    if entry = .directory && !isRecursive then
      refuse ("-r not specified; omitting directory " ++ namedFile source)
    else
      let directory := (← get).directory
      match (← theDisk).find directory (diskPath target) with
      | .error error => if moves then refuseMove error else refuseNew "regular file " error
      | .ok goal =>
        let disk ← theDisk
        let there := disk.lookup goal
        if hasOption options 'n' && there.isSome then return 0
        else if goal = place then
          refuse (namedFile source ++ " and " ++ namedFile target ++ " are the same file")
        else if entry = .directory && place.isPrefixOf goal then
          refuse ((if moves then "cannot move " ++ namedFile source ++ " to a subdirectory of itself"
            else "cannot copy a directory, " ++ namedFile source ++ ", into itself") ++ ", " ++
            namedFile target)
        else
          match disk.checkDirectory goal.dropLast with
          | .error error =>
            let kind := if entry = .directory then "directory " else "regular file "
            if moves then refuseMove error
            else refuseNew kind (if target.endsWith "/" then .notDirectory else error)
          | .ok _ =>
            if target.endsWith "/" && there.isNone && entry != .directory then
              if moves then refuseMove .notDirectory else refuseNew "regular file " .notDirectory
            else
              match entry, there with
              | .directory, some (.file _ _) =>
                refuse ("cannot overwrite non-directory " ++ namedFile target ++
                  " with directory " ++ namedFile source)
              | .file _ _, some .directory =>
                refuse ("cannot overwrite directory " ++ namedFile target ++ " with non-directory")
              | _, _ =>
                if moves && there = some .directory && !(disk.children goal).isEmpty then
                  refuseMove .notEmpty
                else
                  Act.change fun state =>
                    let copied :=
                      match entry, there with
                      | .file bytes _, some (.file _ executable) =>
                        state.disk.insert goal (if moves then entry else .file bytes executable)
                      | _, _ => copyTree state.disk place goal
                    { state with disk := if moves then copied.remove place else copied }
                  if hasOption options 'v' then
                    say 1 ((if moves then "renamed " else "") ++ namedFile source ++ " -> " ++
                      namedFile target ++ "\n")
                  return 0

/-- Copies or moves operands to the last one of them, which may be a directory. -/
def copyOrMove (moves : Bool) : Program := fun _ =>
  withOptions ⟨"rRapfinuvTdLPHt:", [("recursive", 'r'), ("archive", 'a'), ("force", 'f'),
    ("no-clobber", 'n'), ("verbose", 'v'), ("target-directory", 't')], false⟩ 1
    fun options operands => do
      let named := lastValue? options 't'
      match operands, named with
      | [], _ => refuseUsage "missing file operand" 1
      | [only], none =>
        refuseUsage ("missing destination file operand after " ++ namedFile only) 1
      | operands, named =>
        let sources := if named.isSome then operands else operands.dropLast
        let target := named.getD (operands.getLast?.getD "")
        match ← entryAt target with
        | .ok (_, .directory) =>
          if hasOption options 'T' then transferAll moves options target sources
          else
            forOperands (fun source =>
              transfer moves options source (pathBelow target (lastName source))) sources
        | .ok _ =>
          if 1 < sources.length then
            report ("target " ++ namedFile target ++ ": " ++ DiskError.text .notDirectory)
            return 1
          else transferAll moves options target sources
        | .error error =>
          if 1 < sources.length then
            report ("target " ++ namedFile target ++ ": " ++ error.text)
            return 1
          else transferAll moves options target sources
where
  transferAll (moves : Bool) (options : List (Char × String)) (target : String) :
      List String → Act Nat :=
    forOperands fun source => transfer moves options source target

/-- Makes other names for files: each gets the present text of the file. -/
def ln : Program := fun _ =>
  withOptions ⟨"sfnvTirbP", [("symbolic", 's'), ("force", 'f')], false⟩ 1 fun options operands => do
    match operands with
    | [] => refuseUsage "missing file operand" 1
    | operands =>
      let target :=
        match operands with
        | [only] => lastName only
        | _ => operands.getLast?.getD ""
      let sources := if operands.length = 1 then operands else operands.dropLast
      let inDirectory :=
        match ← entryAt target with
        | .ok (_, .directory) => true
        | _ => false
      forOperands (fun source => do
        let goal := if inDirectory then pathBelow target (lastName source) else target
        match ← entryAt source, ← entryAt goal with
        | .error error, _ =>
          if hasOption options 's' then return 0
          else
            report ("failed to access " ++ namedFile source ++ ": " ++ error.text)
            return 1
        | .ok (place, _), there =>
          if there.toOption.isSome && !hasOption options 'f' then
            let kind := if hasOption options 's' then "symbolic" else "hard"
            report ("failed to create " ++ kind ++ " link " ++ namedFile goal ++ ": File exists")
            return 1
          else
            let directory := (← get).directory
            changing (fun disk => do
              let other ← disk.find directory (diskPath goal)
              disk.checkDirectory other.dropLast
              return copyTree disk place other)
              fun error => "failed to create link " ++ namedFile goal ++ ": " ++ error.text) sources

/-- Copies its input to its output and to files. -/
def tee : Program := fun _ =>
  withOptions ⟨"aip", [("append", 'a')], false⟩ 1 fun options operands => do
    let mut status := 0
    let mut descriptors : List Nat := []
    for operand in operands do
      match ← openPath operand (if hasOption options 'a' then .append else .write) with
      | .ok stream =>
        let descriptor := fileDescriptor + 1 + descriptors.length
        connect descriptor (some stream)
        descriptors := descriptors ++ [descriptor]
      | .error error =>
        report (shownFile operand ++ ": " ++ error.text)
        status := 1
    let targets := 1 :: descriptors
    match ← passOn 0 fun text => targets.forM fun descriptor => say descriptor text with
    | none => return status
    | some error =>
      report ("read error: " ++ error.text)
      return 1

/-- Lets files be run, or not. -/
def chmod : Program := fun _ arguments => do
  let isOption (word : String) : Bool := ["-R", "-v", "-f", "-c"].contains word
  let words := arguments.filter fun word => !isOption word
  match words with
  | [] => refuseUsage "missing operand" 1
  | [mode] => refuseUsage ("missing operand after ‘" ++ mode ++ "’") 1
  | mode :: operands =>
    if (modeFrom? 0 mode).isNone then refuseUsage ("invalid mode: ‘" ++ mode ++ "’") 1
    else
      forOperands (fun operand => do
        match ← entryAt operand with
        | .error error =>
          report ("cannot access " ++ namedFile operand ++ ": " ++ error.text)
          return 1
        | .ok (place, entry) =>
          Act.change fun state =>
            let change (disk : Disk) (place : Location) : Disk :=
              match disk.lookup place with
              | some (.file bytes executable) =>
                let old := if executable then 493 else 420
                let new := (modeFrom? old mode).getD old
                disk.insert place (.file bytes (new / 64 % 2 = 1))
              | _ => disk
            let below :=
              if arguments.contains "-R" && entry = .directory then
                (state.disk.entries.filter fun other => place.isPrefixOf other.1).map (·.1)
              else [place]
            { state with disk := below.foldl change state.disk }
          return 0) operands

/-- The text of the path that an operand leads to. -/
def realpath : Program := fun _ =>
  withOptions ⟨"emsqzLPf", [("canonicalize", 'f')], false⟩ 1 fun options =>
    needing "operand" <| forOperands fun operand => do
      let directory := (← get).directory
      let disk ← theDisk
      match disk.find directory (diskPath operand) with
      | .ok place =>
        if hasOption options 'e' && (disk.lookup place).isNone then
          report (shownFile operand ++ ": No such file or directory")
          return 1
        else
          say 1 (Text.encode (Path.ofLocation place).text ++ "\n")
          return 0
      | .error error =>
        report (shownFile operand ++ ": " ++ error.text)
        return 1

/-- Tells where links lead; there are none. -/
def readlink : Program := fun tools =>
  withOptions ⟨"efmnqsvz", [("canonicalize", 'f')], false⟩ 1 fun options operands => do
    if "efm".toList.any fun c => hasOption options c then realpath tools operands
    else return 1

/-- A number in letters and digits, for names that are made up. -/
def madeUp (count seed : Nat) : String :=
  let alphabet := "0123456789ABCDEFGHIJKLMNOPQRSTUVWXYZabcdefghijklmnopqrstuvwxyz".toList
  String.ofList ((List.range count).map fun n =>
    alphabet.getD ((seed * 7919 + (n + 1) * 104729 + n * n * seed) % 62) '0')

/-- Makes a file or a directory with a name of its own. -/
def mktemp : Program := fun _ =>
  withOptions ⟨"duqtp:", [("directory", 'd'), ("dry-run", 'u')], false⟩ 1 fun options operands => do
    let machine ← get
    let count := (← theDisk).entries.length
    let template := operands.headD "tmp.XXXXXXXXXX"
    let marks := (template.toList.reverse.takeWhile (· == 'X')).length
    if marks < 3 then
      report ("too few X's in template ‘" ++ template ++ "’")
      return 1
    else
      let name := String.ofList (template.toList.take (template.length - marks)) ++
        madeUp marks (machine.process * 31 + count)
      let place := if operands.isEmpty || hasOption options 't' then
        (machine.textOf? "TMPDIR").getD "/tmp" ++ "/" ++ name else name
      let failure? ←
        if hasOption options 'd' then makeDirectory place
        else
          match ← openPath place .create with
          | .ok _ => pure none
          | .error error => pure (some error)
      match failure? with
      | none =>
        say 1 (place ++ "\n")
        return 0
      | some error =>
        report ("failed to create " ++ (if hasOption options 'd' then "directory" else "file") ++
          " via template ‘" ++ template ++ "’: " ++ error.text)
        return 1

end Runbook.Shell
