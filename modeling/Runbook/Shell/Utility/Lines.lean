import Runbook.Shell.Format
import Runbook.Shell.Utility.Basic

/-!
# Programs for lines

These programs pick lines of texts, count them, number them or put them side by side.
-/

namespace Runbook.Shell

/-- Which part of a text is asked for: so many lines or octets from the front, all but so many, so
many from the back, or all from a place on. -/
inductive Portion where
  | first (n : Nat)
  | butLast (n : Nat)
  | last (n : Nat)
  | from (n : Nat)
  deriving DecidableEq, Repr

/-- The items that a portion picks. -/
def Portion.pick {α : Type} (portion : Portion) (items : List α) : List α :=
  match portion with
  | first n => items.take n
  | butLast n => items.take (items.length - n)
  | last n => items.drop (items.length - n)
  | .from n => items.drop (n - 1)

/-- The factors that letters behind a number stand for. -/
def sizeFactors : List (String × Nat) :=
  [("", 1), ("b", 512), ("k", 1024), ("K", 1024), ("kB", 1000), ("M", 1024 * 1024),
   ("MB", 1000 * 1000), ("G", 1024 * 1024 * 1024)]

/-- The number that a text with a letter behind it spells. -/
def sizeOf? (text : String) : Option Nat :=
  let digits := text.toList.takeWhile Char.isDigit
  if digits.isEmpty then none
  else do
    let n ← readNat? 10 digits
    let factor ← sizeFactors.lookup (String.ofList (text.toList.drop digits.length))
    return n * factor

/-- The portion that the value of an option asks for. -/
def portionOf? (fromEnd : Bool) (text : String) : Option Portion :=
  match fromEnd, text.toList with
  | false, '-' :: rest => (sizeOf? (String.ofList rest)).map .butLast
  | false, _ =>
    let digits := if text.front == '+' then String.ofList (text.toList.drop 1) else text
    (sizeOf? digits).map .first
  | true, '+' :: rest => (sizeOf? (String.ofList rest)).map .from
  | true, '-' :: rest => (sizeOf? (String.ofList rest)).map .last
  | true, _ => (sizeOf? text).map .last

/-- Arguments in which a bare number of lines is written as an option. -/
def withCountOption (fromEnd : Bool) : List String → List String
  | [] => []
  | first :: rest =>
    match first.toList with
    | '-' :: c :: digits =>
      if c.isDigit && digits.all fun d => d.isDigit then
        "-n" :: String.ofList (c :: digits) :: rest
      else first :: rest
    | '+' :: c :: digits =>
      if fromEnd && c.isDigit && digits.all fun d => d.isDigit then
        "-n" :: String.ofList ('+' :: c :: digits) :: rest
      else first :: rest
    | _ => first :: rest

/-- The front of a text that holds at most so many lines, and how many it holds. -/
def frontLines : Nat → List Char → List Char × Nat
  | 0, _ | _, [] => ([], 0)
  | n + 1, c :: rest =>
    if c == '\n' then
      let (front, count) := frontLines n rest
      (c :: front, count + 1)
    else
      let (front, count) := frontLines (n + 1) rest
      (c :: front, count)

/-- The octets that are read from a pipe at once. -/
def readSize : Nat := 8192

/-- Writes the first lines or octets that come from a descriptor, in at most so many pieces; gives the
reason if it cannot be read. What is not written of a file is left there. -/
def passFront (fuel descriptor : Nat) (byLines : Bool) (n : Nat) : Act (Option DiskError) :=
  match fuel with
  | 0 => return none
  | fuel + 1 => do
    if n = 0 then return none
    else
      match ← find descriptor with
      | .text octets =>
        let me ← myself
        let isFile ← Act.look fun state =>
          match state.stream? me descriptor with
          | some ⟨.file _, _, _, _, _⟩ => true
          | _ => false
        let octets := if isFile then octets else octets.take readSize
        let (front, count) :=
          if byLines then frontLines n octets else (octets.take n, min n octets.length)
        take descriptor (if byLines && !isFile then octets.length else front.length)
        say 1 (String.ofList front)
        passFront fuel descriptor byLines (n - count)
      | .refused error => return some error
      | .ended | .notYet => return none

/-- Writes a portion of what comes from a descriptor; gives the reason if it cannot be read. -/
def passPortion (byLines : Bool) (portion : Portion) (descriptor : Nat) : Act (Option DiskError) := do
  match portion with
  | .first n => passFront 100000 descriptor byLines n
  | _ =>
    match ← readAll descriptor with
    | .error error => return some error
    | .ok text =>
      say 1 (if byLines then String.join (portion.pick (endedLines text))
        else String.ofList (portion.pick text.toList))
      return none

/-- Writes a portion of each operand. -/
def pickLines (fromEnd : Bool) : Program := fun _ arguments =>
  withOptions ⟨"n:c:qvzfF", [("lines", 'n'), ("bytes", 'c'), ("quiet", 'q'), ("silent", 'q'),
    ("verbose", 'v')], false⟩ 1
    (fun options operands => do
      let asked := options.reverse.find? fun option => option.1 == 'n' || option.1 == 'c'
      let (letter, value) := asked.getD ('n', "10")
      match portionOf? fromEnd value with
      | none =>
        report ("invalid number of " ++ (if letter == 'c' then "bytes" else "lines") ++ ": ‘" ++
          value ++ "’")
        return 1
      | some portion =>
        let titled := (1 < operands.length && !hasOption options 'q') || hasOption options 'v'
        let mut isFirst := true
        let mut status := 0
        for operand in (if operands.isEmpty then ["-"] else operands) do
          let title := (if isFirst then "" else "\n") ++ "==> " ++
            (if operand = "-" then "standard input" else operand) ++ " <==\n"
          let outcome ← withOperand operand fun descriptor => do
            if titled then say 1 title
            passPortion (letter == 'n') portion descriptor
          match outcome with
          | .ok none => isFirst := false
          | .ok (some error) =>
            isFirst := false
            report ("error reading " ++ namedFile operand ++ ": " ++ error.text)
            status := 1
          | .error error =>
            report ("cannot open " ++ namedFile operand ++ " for reading: " ++ error.text)
            status := 1
        return status)
    (withCountOption fromEnd arguments)

/-- What is counted in a text: lines, words, characters, octets, and the longest line. -/
structure TextCount where
  lines : Nat
  words : Nat
  chars : Nat
  octets : Nat
  widest : Nat

/-- Whether an octet separates words. -/
def separatesWords (c : Char) : Bool := " \t\n\x0b\x0c\r".toList.contains c

/-- Counts a text. -/
def TextCount.of (text : String) : TextCount :=
  let octets := text.toList
  let words := (octets.splitBy fun a b => separatesWords a == separatesWords b).filter fun run =>
    !run.head?.any separatesWords
  let longest := ((plainLines text).map fun line => (Text.decode line).length).foldl max 0
  ⟨octets.count '\n', words.length, (Text.decode text).length, octets.length, longest⟩

/-- Both counts together. -/
def TextCount.add (a b : TextCount) : TextCount :=
  ⟨a.lines + b.lines, a.words + b.words, a.chars + b.chars, a.octets + b.octets,
    max a.widest b.widest⟩

/-- The counts that are asked for, in their order. -/
def TextCount.asked (count : TextCount) (options : List (Char × String)) : List Nat :=
  let has (letter : Char) : Bool := hasOption options letter
  let all := options.isEmpty
  (if all || has 'l' then [count.lines] else []) ++
    (if all || has 'w' then [count.words] else []) ++
    (if has 'm' then [count.chars] else []) ++ (if all || has 'c' then [count.octets] else []) ++
    if has 'L' then [count.widest] else []

/-- Counts lines, words and octets. -/
def wc : Program := fun _ =>
  withOptions ⟨"lwcmL", [("lines", 'l'), ("words", 'w'), ("bytes", 'c'), ("chars", 'm'),
    ("max-line-length", 'L')], false⟩ 1
    fun options operands => do
      let mut counts : List TextCount := []
      let mut status := 0
      let mut sizes := 0
      let mut least := 1
      let mut pieces : List (Option DiskError × TextCount × String) := []
      for operand in (if operands.isEmpty then ["-"] else operands) do
        let isFile ← isRegular operand
        match ← readOperand operand with
        | .ok text =>
          if isFile then sizes := sizes + text.length else least := 7
          let count := TextCount.of text
          counts := counts ++ [count]
          pieces := pieces ++ [(none, count, operand)]
        | .error error =>
          status := 1
          if error = .isDirectory then least := 7
          pieces := pieces ++ [(some error, ⟨0, 0, 0, 0, 0⟩, operand)]
      let columns := ((TextCount.of "").asked options).length
      let width :=
        if columns = 1 && operands.length ≤ 1 then 1 else max least (decimalDigits sizes).length
      let line (count : TextCount) (name : String) : String :=
        " ".intercalate ((count.asked options).map fun n =>
          String.ofList (padLeft width ' ' (decimalDigits n))) ++
          (if operands.isEmpty then "" else " " ++ name) ++ "\n"
      for (error?, count, name) in pieces do
        match error? with
        | some error => report (shownFile name ++ ": " ++ error.text)
        | none => pure ()
        if error?.all (· = .isDirectory) then say 1 (line count name)
      if 1 < operands.length then
        say 1 (line (counts.foldl TextCount.add ⟨0, 0, 0, 0, 0⟩) "total")
      return status
where
  isRegular (operand : String) : Act Bool := do
    if operand = "-" then
      let me ← myself
      Act.look fun state =>
        match state.stream? me 0 with
        | some ⟨.file _, _, _, _, _⟩ => true
        | _ => false
    else
      match ← entryAt operand with
      | .ok (_, .file _ _) => return true
      | _ => return false

/-- Writes lines in reverse order. -/
def tac : Program := fun _ =>
  withOptions ⟨"", [], false⟩ 1 fun _ operands =>
    forTexts operands (fun name error =>
      "failed to open " ++ namedFile name ++ " for reading: " ++ error.text)
      fun _ text => do
        say 1 (String.join (endedLines text).reverse)
        return 0

/-- Writes the characters of each line in reverse order. -/
def rev : Program := fun _ =>
  withOptions ⟨"", [], false⟩ 1 fun _ operands =>
    forTexts operands (fun name error => "cannot open " ++ name ++ ": " ++ error.text)
      fun _ text => do
        say 1 (String.join ((endedLines text).map fun line =>
          let body := line.toList.takeWhile (· != '\n')
          let turned := String.ofList (Text.decode (String.ofList body)).toList.reverse
          Text.encode turned ++ (if body.length < line.length then "\n" else "")))
        return 0

/-- Numbers lines: those that are not empty, or all of them. -/
def nl : Program := fun _ =>
  withOptions ⟨"b:w:s:v:n:i:h:f:d:l:p", [("body-numbering", 'b')], false⟩ 1
      fun options operands => do
    let all := lastValue? options 'b' = some "a"
    let none' := lastValue? options 'b' = some "n"
    let width := ((lastValue? options 'w').bind (·.toNat?)).getD 6
    let start := ((lastValue? options 'v').bind (·.toNat?)).getD 1
    let step := ((lastValue? options 'i').bind (·.toNat?)).getD 1
    let mark := (lastValue? options 's').getD "\t"
    let place := (lastValue? options 'n').getD "rn"
    let mut number := start
    let mut status := 0
    for operand in (if operands.isEmpty then ["-"] else operands) do
      match ← readOperand operand with
      | .error error =>
        report (shownFile operand ++ ": " ++ error.text)
        status := 1
      | .ok text =>
        for line in plainLines text do
          if (line != "" || all) && !none' then
            let digits := decimalDigits number
            let shown :=
              if place = "ln" then
                digits ++ List.replicate (width - digits.length) ' '
              else padLeft width (if place = "rz" then '0' else ' ') digits
            say 1 (String.ofList shown ++ mark ++ line ++ "\n")
            number := number + step
          else say 1 (String.ofList (List.replicate (width + mark.length) ' ') ++ line ++ "\n")
    return status

/-- The lines of several texts side by side, as long as one of them has more. -/
def sideBySide (fuel : Nat) (marks : List Char) (texts : List (List String)) : List String :=
  match fuel with
  | 0 => []
  | fuel + 1 =>
    if texts.all List.isEmpty then []
    else
      joinWith marks marks (texts.map fun lines => lines.headD "") ::
        sideBySide fuel marks (texts.map (·.drop 1))
where
  joinWith (all : List Char) : List Char → List String → String
    | _, [] => ""
    | _, [last] => last
    | [], first :: rest =>
      first ++ (all.head?.map Char.toString).getD "" ++ joinWith all (all.drop 1) rest
    | mark :: marks, first :: rest => first ++ mark.toString ++ joinWith all marks rest

/-- Puts the lines of files side by side, or all lines of each file into one. -/
def paste : Program := fun _ =>
  withOptions ⟨"d:sz", [("delimiters", 'd'), ("serial", 's')], false⟩ 1 fun options operands => do
    let marks := (unescaped .common ((lastValue? options 'd').getD "\t").toList).1
    let operands := if operands.isEmpty then ["-"] else operands
    let texts ← operands.mapM fun operand => return (operand, ← readOperand operand)
    match texts.find? fun text => text.2.toOption.isNone with
    | some (name, .error error) =>
      report (shownFile name ++ ": " ++ error.text)
      return 1
    | _ =>
      let lists := texts.map fun text => plainLines (text.2.toOption.getD "")
      let inputs := (operands.filter (· = "-")).length
      let lists := if 1 < inputs then spread operands inputs lists else lists
      let count := (lists.map List.length).foldl max 0
      let lines :=
        if hasOption options 's' then
          lists.map fun lines => (sideBySide 1 marks (lines.map fun line => [line])).headD ""
        else sideBySide (count + 1) marks lists
      say 1 (String.join (lines.map (· ++ "\n")))
      return 0
where
  spread (operands : List String) (inputs : Nat) (lists : List (List String)) :
      List (List String) :=
    let all := (lists.zip operands).findSome? fun (lines, name) =>
      if name = "-" then some lines else none
    let pick (n : Nat) : List String :=
      ((all.getD []).zip (List.range ((all.getD []).length))).filterMap fun (line, m) =>
        if m % inputs = n then some line else none
    (assign pick 0 (operands.zip lists))
  assign (pick : Nat → List String) (n : Nat) : List (String × List String) → List (List String)
    | [] => []
    | (name, lines) :: rest =>
      if name = "-" then pick n :: assign pick (n + 1) rest else lines :: assign pick n rest

/-- Breaks lines that are too long. -/
def fold : Program := fun _ =>
  withOptions ⟨"w:sb", [("width", 'w'), ("spaces", 's'), ("bytes", 'b')], false⟩ 1
    fun options operands =>
      let width := max 1 (((lastValue? options 'w').bind (·.toNat?)).getD 80)
      forTexts operands (fun name error => shownFile name ++ ": " ++ error.text) fun _ text => do
        say 1 (String.join ((endedLines text).map fun line =>
          let body := line.toList.takeWhile (· != '\n')
          let ending := if body.length < line.length then "\n" else ""
          "\n".intercalate (broken body.length width (hasOption options 's') body) ++ ending))
        return 0
where
  broken (fuel width : Nat) (atBlanks : Bool) (s : List Char) : List String :=
    match fuel with
    | 0 => [String.ofList s]
    | fuel + 1 =>
      if s.length ≤ width then [String.ofList s]
      else
        let front := s.take width
        let upToBlank := (front.reverse.dropWhile (· != ' ')).reverse
        let piece := if atBlanks && !upToBlank.isEmpty then upToBlank else front
        String.ofList piece :: broken fuel width atBlanks (s.drop piece.length)

/-- Writes its words or a letter again and again, as long as somebody reads. -/
def yes : Program := fun _ arguments => do
  let line := (if arguments.isEmpty then "y" else " ".intercalate arguments) ++ "\n"
  let block := String.join (List.replicate (max 1 (8192 / line.length)) line)
  go 100000 block
where
  go (fuel : Nat) (block : String) : Act Nat :=
    match fuel with
    | 0 => return 0
    | fuel + 1 => do
      match ← write 1 block with
      | none => go fuel block
      | some reason =>
        report ("standard output: " ++ reason)
        return 1

end Runbook.Shell
