import Runbook.Shell.Regex
import Runbook.Shell.Utility.Basic

/-!
# Searching for lines

Lines in which a pattern is found are written, counted or told of.
-/

namespace Runbook.Shell

/-- What lines are searched for: expressions, and how a match has to stand. -/
structure Searcher where
  expressions : List Regex
  foldsCase : Bool
  wholeWords : Bool
  wholeLines : Bool

namespace Searcher

/-- Whether a match stands as asked for. -/
def accepts (searcher : Searcher) (before : Option Char) (found : RegexMatch) : Bool :=
  let previous := (found.before.getLast?).orElse fun _ => before
  (!searcher.wholeLines || (found.before.isEmpty && found.after.isEmpty)) &&
    (!searcher.wholeWords ||
      (!previous.any isWordChar && !found.after.head?.any isWordChar))

/-- The first match of one expression that stands as asked for. -/
def findOne (fuel : Nat) (searcher : Searcher) (regex : Regex) (before : Option Char)
    (s : List Char) : Option RegexMatch :=
  match fuel with
  | 0 => none
  | fuel + 1 =>
    match regex.findBehind? searcher.foldsCase before s with
    | none => none
    | some found =>
      if searcher.accepts before found then some found
      else
        match s.drop found.before.length with
        | [] => none
        | c :: rest =>
          (findOne fuel searcher regex (some c) rest).map fun found' =>
            { found' with before := found.before ++ c :: found'.before }

/-- The first match of any expression; of those at one place the longest. -/
def find (searcher : Searcher) (before : Option Char) (s : List Char) : Option RegexMatch :=
  (searcher.expressions.filterMap fun regex => searcher.findOne (s.length + 1) regex before s).foldl
    (fun best found =>
      match best with
      | none => some found
      | some other =>
        if found.before.length < other.before.length ||
            (found.before.length = other.before.length &&
              other.text.length < found.text.length) then
          some found
        else best) none

/-- All matches in a text, without those that take nothing. -/
def findAll (fuel : Nat) (searcher : Searcher) (before : Option Char) (s : List Char) :
    List (List Char) :=
  match fuel with
  | 0 => []
  | fuel + 1 =>
    match searcher.find before s with
    | none => []
    | some found =>
      if found.text.isEmpty then
        match found.after with
        | [] => []
        | c :: rest => findAll fuel searcher (some c) rest
      else found.text :: findAll fuel searcher found.text.getLast? found.after

end Searcher

/-- A text in which every character stands for itself. -/
def literalRegex (s : List Char) : Regex :=
  s.foldr (fun c rest => .both (.char c) rest) .empty

/-- How found lines are told of: the name in front, the number, and how many lines around them are
written too. -/
structure SearchShow where
  named : Bool
  numbered : Bool
  onlyMatches : Bool
  before : Nat
  after : Nat

/-- The lines that are written: each with its number, its text, whether it was found, and whether
there is a gap in front of it. -/
def linesAround (shown : SearchShow) (found : List (Nat × String × Bool)) :
    List (Nat × String × Bool × Bool) :=
  let hits := (found.filter fun line => line.2.2).map (·.1)
  let isNear (n : Nat) : Bool := hits.any fun hit => n ≤ hit + shown.after && hit ≤ n + shown.before
  let near := found.filter fun line => isNear line.1
  go none near
where
  go (last : Option Nat) : List (Nat × String × Bool) → List (Nat × String × Bool × Bool)
    | [] => []
    | (n, text, hit) :: rest => (n, text, hit, last.any (· + 1 < n)) :: go (some n) rest

/-- The paths of the files at and below a path. -/
def filesBelow (fuel : Nat) (disk : Disk) (place : Location) (path : String) : List String :=
  match fuel with
  | 0 => []
  | fuel + 1 =>
    match disk.lookup place with
    | some (.file _ _) => [path]
    | some .directory =>
      (disk.children place).mergeSort.flatMap fun name =>
        filesBelow fuel disk (place ++ [name])
          (if path.endsWith "/" then path ++ Text.encode name else path ++ "/" ++ Text.encode name)
    | none => []

/-- The names of the options of the program that searches. -/
def searchNames : OptionNames :=
  ⟨"EFGPicvnoqslLwxmhHrRbazUe:f:m:A:B:C:", [("extended-regexp", 'E'), ("fixed-strings", 'F'),
    ("ignore-case", 'i'), ("invert-match", 'v'), ("count", 'c'), ("line-number", 'n'),
    ("only-matching", 'o'), ("quiet", 'q'), ("silent", 'q'), ("no-messages", 's'),
    ("files-with-matches", 'l'), ("files-without-match", 'L'), ("word-regexp", 'w'),
    ("line-regexp", 'x'), ("max-count", 'm'), ("no-filename", 'h'), ("with-filename", 'H'),
    ("recursive", 'r'), ("regexp", 'e'), ("file", 'f'), ("after-context", 'A'),
    ("before-context", 'B'), ("context", 'C'), ("color", 'a'), ("byte-offset", 'b')], false⟩

/-- Tells how the program is used. -/
def refuseSearch (message : String) : Act Nat := do
  if message != "" then report message
  say 2 "Usage: grep [OPTION]... PATTERNS [FILE]...\nTry 'grep --help' for more information.\n"
  return 2

/-- Arguments in which a bare number stands for lines around. -/
def withContextOption (arguments : List String) : List String :=
  arguments.map fun argument =>
    match argument.toList with
    | '-' :: c :: digits =>
      if c.isDigit && digits.all fun d => d.isDigit then "-C" ++ String.ofList (c :: digits)
      else argument
    | _ => argument

/-- Searches one text; gives the number of lines found. -/
def searchText (options : List (Char × String)) (searcher : Searcher) (shown : SearchShow)
    (name text : String) : Act Nat := do
  let has (letter : Char) : Bool := hasOption options letter
  let most := (lastValue? options 'm').bind (·.toNat?)
  let lines := plainLines text
  let tested := lines.map fun line =>
    (line, (searcher.find none (Text.decode line).toList).isSome != has 'v')
  let numbered := (List.range lines.length).zip tested |>.map fun (n, line, hit) =>
    (n + 1, line, hit)
  let limited := (most.elim numbered fun most => limit most numbered)
  let count := (limited.filter fun line => line.2.2).length
  let quiet := has 'q' || has 'l' || has 'L' || has 'c'
  if has 'q' then return count
  else if has 'l' then
    if 0 < count then say 1 (name ++ "\n")
  else if has 'L' then
    if count = 0 then say 1 (name ++ "\n")
  else if has 'c' then
    say 1 ((if shown.named then name ++ ":" else "") ++ toString count ++ "\n")
  if !quiet then
    let front (n : Nat) (mark : String) : String :=
      (if shown.named then name ++ mark else "") ++
        if shown.numbered then toString n ++ mark else ""
    let around := 0 < shown.before || 0 < shown.after
    let text := String.join ((linesAround shown limited).map fun (n, line, hit, gap) =>
      (if gap && around then "--\n" else "") ++
        if shown.onlyMatches then
          if hit && !has 'v' then
            let chars := (Text.decode line).toList
            String.join ((searcher.findAll (chars.length + 1) none chars).map fun found =>
              front n ":" ++ Text.encode (String.ofList found) ++ "\n")
          else ""
        else front n (if hit then ":" else "-") ++ line ++ "\n")
    say 1 text
  return count
where
  limit (most : Nat) : List (Nat × String × Bool) → List (Nat × String × Bool)
    | [] => []
    | line :: rest =>
      if line.2.2 then
        match most with
        | 0 => []
        | most + 1 => line :: limit most rest
      else line :: limit most rest

/-- Writes the lines in which one of some patterns is found. -/
def grepAs (letter : Option Char) : Program := fun _ arguments => do
  let parsed := parseArguments (arguments.length + 1) searchNames (withContextOption arguments)
  match parsed with
  | .error message => refuseSearch message
  | .ok (options, operands) =>
    let options := (letter.map fun letter => (letter, "")).toList ++ options
    let has (letter : Char) : Bool := hasOption options letter
    let given := options.filterMap fun option => if option.1 == 'e' then some option.2 else none
    let files := options.filterMap fun option => if option.1 == 'f' then some option.2 else none
    let listed ← files.mapM fun file => return plainLines ((← readOperand file).toOption.getD "")
    let named := !given.isEmpty || !files.isEmpty
    match named, operands with
    | false, [] => refuseSearch ""
    | _, _ =>
      let texts := if named then given.flatMap (·.splitOn "\n") ++ listed.flatten
        else (operands.headD "").splitOn "\n"
      let operands := if named then operands else operands.drop 1
      let kind := (options.reverse.find? fun option => "EFGP".toList.contains option.1).map (·.1)
      let expressions? := texts.mapM fun text =>
        let chars := (Text.decode text).toList
        match kind with
        | some 'F' => some (literalRegex chars)
        | some 'E' | some 'P' => regexOf? .extended chars
        | _ => regexOf? .basic chars
      match expressions? with
      | none =>
        let opens := texts.any fun text => text.toList.contains '('
        report (if opens then "Unmatched ( or \\(" else "Invalid regular expression")
        return 2
      | some expressions =>
        let searcher : Searcher := ⟨expressions, has 'i', has 'w', has 'x'⟩
        let isDeep := has 'r' || has 'R'
        let operands := if operands.isEmpty then [if isDeep then "." else "-"] else operands
        let number (letter : Char) : Nat :=
          let given := (lastValue? options letter).orElse fun _ => lastValue? options 'C'
          (given.bind (·.toNat?)).getD 0
        let namesShown := (1 < operands.length || isDeep || has 'H') && !has 'h'
        let shown : SearchShow :=
          ⟨namesShown, has 'n', has 'o', if has 'o' then 0 else number 'B',
            if has 'o' then 0 else number 'A'⟩
        let mut found := false
        let mut failed := false
        let disk ← theDisk
        for operand in operands do
          let paths ←
            if isDeep then
              match ← entryAt operand with
              | .ok (place, .directory) => pure (filesBelow 64 disk place operand)
              | _ => pure [operand]
            else pure [operand]
          for path in paths do
            if has 'q' && found then pure ()
            else
              match ← readOperand path with
              | .error error =>
                if !has 's' then report (path ++ ": " ++ error.text)
                if error != .isDirectory then failed := true
              | .ok text =>
                let name := if path = "-" then "(standard input)" else path
                let count ← searchText options searcher shown name text
                if (if has 'L' then count = 0 else 0 < count) then found := true
        if found && has 'q' then return 0
        else if failed then return 2
        else return if found then 0 else 1

end Runbook.Shell
