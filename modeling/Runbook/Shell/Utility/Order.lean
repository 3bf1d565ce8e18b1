import Runbook.Number.Power
import Runbook.Shell.Utility.Basic

/-!
# Programs for sorted lines

Lines are put in order by keys, runs of equal lines become one, and sorted files are compared.
-/

namespace Runbook.Shell

/-- How keys are compared. -/
structure KeyOrder where
  numeric : Bool
  general : Bool
  human : Bool
  months : Bool
  versions : Bool
  folds : Bool
  wordsOnly : Bool
  skipsBlanks : Bool
  reverse : Bool
  deriving DecidableEq, Repr

/-- The order that letters ask for. -/
def KeyOrder.ofLetters (letters : List Char) : KeyOrder :=
  let has (c : Char) : Bool := letters.contains c
  ⟨has 'n', has 'g', has 'h', has 'M', has 'V', has 'f', has 'd', has 'b', has 'r'⟩

/-- A key: where it starts and ends, by fields and characters, and how it is compared. Without an
end it goes to the end of the line; the end of a field is its character zero. -/
structure SortKey where
  startField : Nat
  startChar : Nat
  last? : Option (Nat × Nat)
  order : KeyOrder

/-- The fields of a line: with a mark what stands between marks, and else words with the blanks in
front of them. -/
def keyFields (mark : Option Char) (line : List Char) : List (List Char) :=
  match mark with
  | some mark =>
    (line.splitBy fun a b => !(a == mark) && !(b == mark)) |> group mark
  | none =>
    let isBlank (c : Char) : Bool := c == ' ' || c == '\t'
    line.splitBy fun a b => !(!isBlank a && isBlank b)
where
  group (mark : Char) (runs : List (List Char)) : List (List Char) :=
    let line := runs.flatten
    let rec go (fuel : Nat) (s : List Char) : List (List Char) :=
      match fuel with
      | 0 => [s]
      | fuel + 1 =>
        let field := s.takeWhile (· != mark)
        if field.length = s.length then [s] else field :: go fuel (s.drop (field.length + 1))
    go line.length line

/-- The place in a line where a field starts. -/
def fieldStart (mark : Option Char) (line : List Char) (n : Nat) : Nat :=
  let fields := (keyFields mark line).take n
  min line.length (sumOf (fields.map List.length) + if mark.isSome then fields.length else 0)

/-- The text of a key in a line. -/
def SortKey.textIn (key : SortKey) (mark : Option Char) (line : List Char) : List Char :=
  let isBlank (c : Char) : Bool := c == ' ' || c == '\t'
  let blanksAt (place : Nat) : Nat :=
    if key.order.skipsBlanks then ((line.drop place).takeWhile isBlank).length else 0
  let start := fieldStart mark line (key.startField - 1)
  let start := min line.length (start + blanksAt start + (key.startChar - 1))
  match key.last? with
  | none => line.drop start
  | some (field, 0) =>
    let finish := fieldStart mark line field
    let finish := if mark.isSome && finish < line.length then finish - 1
      else if mark.isSome && (keyFields mark line).length > field then finish - 1 else finish
    (line.take finish).drop start
  | some (field, char) =>
    let finish := fieldStart mark line (field - 1)
    (line.take (min line.length (finish + blanksAt finish + char))).drop start

/-- A number at the start of a text, as a fraction: its sign, its digits, and how many of them stand
behind the point. -/
def numberAtFront (s : List Char) : Int × Nat :=
  let s := s.dropWhile fun c => c == ' ' || c == '\t'
  let (negative, s) :=
    match s with
    | '-' :: rest => (true, rest)
    | s => (false, s)
  let whole := s.takeWhile Char.isDigit
  let fraction :=
    match s.drop whole.length with
    | '.' :: rest => rest.takeWhile Char.isDigit
    | _ => []
  let n : Int := (readNat? 10 (whole ++ fraction)).getD 0
  (if negative then -n else n, fraction.length)

/-- Compares fractions. -/
def compareNumbers (a b : Int × Nat) : Ordering :=
  compare (a.1 * tenTo b.2) (b.1 * tenTo a.2)

/-- The rank of the letter for a size behind a number. -/
def sizeRank (s : List Char) : Nat :=
  let behind := (s.dropWhile fun c => c == ' ' || c == '-').dropWhile fun c => c.isDigit || c == '.'
  match behind.head? with
  | some 'K' | some 'k' => 1
  | some 'M' => 2
  | some 'G' => 3
  | some 'T' => 4
  | some 'P' => 5
  | some 'E' => 6
  | _ => 0

/-- The number of a month, none if there is no name of one. -/
def monthNumber (s : List Char) : Nat :=
  let name := String.ofList (((s.dropWhile (· == ' ')).take 3).map Char.toUpper)
  let months :=
    ["JAN", "FEB", "MAR", "APR", "MAY", "JUN", "JUL", "AUG", "SEP", "OCT", "NOV", "DEC"]
  if months.contains name then months.idxOf name + 1 else 0

/-- A text cut into runs of digits and of other characters. -/
def versionRuns (s : List Char) : List (List Char) := s.splitBy fun a b => a.isDigit == b.isDigit

/-- Compares versions: runs of digits by their numbers. -/
def compareVersions : List (List Char) → List (List Char) → Ordering
  | [], [] => .eq
  | [], _ => .lt
  | _, [] => .gt
  | a :: as, b :: bs =>
    let first :=
      match readNat? 10 a, readNat? 10 b with
      | some m, some n => compare m n
      | _, _ => compare (String.ofList a) (String.ofList b)
    first.then (compareVersions as bs)

/-- Compares two keys, without turning the order round. -/
def KeyOrder.compareTexts (order : KeyOrder) (a b : List Char) : Ordering :=
  let prepared (s : List Char) : List Char :=
    let s := if order.skipsBlanks then s.dropWhile fun c => c == ' ' || c == '\t' else s
    let s := if order.wordsOnly then s.filter fun c => c.isAlphanum || c == ' ' || c == '\t' else s
    if order.folds then s.map Char.toUpper else s
  if order.numeric || order.general then compareNumbers (numberAtFront a) (numberAtFront b)
  else if order.human then
    (compare (sizeRank a) (sizeRank b)).then (compareNumbers (numberAtFront a) (numberAtFront b))
  else if order.months then compare (monthNumber a) (monthNumber b)
  else if order.versions then compareVersions (versionRuns a) (versionRuns b)
  else compare (String.ofList (prepared a)) (String.ofList (prepared b))

/-- Compares two keys. -/
def KeyOrder.compare (order : KeyOrder) (a b : List Char) : Ordering :=
  let found := order.compareTexts a b
  if order.reverse then found.swap else found

/-- Compares lines by keys. -/
def compareKeys (keys : List SortKey) (mark : Option Char) (a b : List Char) : Ordering :=
  keys.foldl
    (fun found key => found.then (key.order.compare (key.textIn mark a) (key.textIn mark b))) .eq

/-- The field, the character and the letters of one end of a key. -/
def keyEnd? (text : List Char) : Option (Nat × Option Nat × List Char) :=
  let field := text.takeWhile Char.isDigit
  let rest := text.drop field.length
  let (char, rest) :=
    match rest with
    | '.' :: rest =>
      let digits := rest.takeWhile Char.isDigit
      (readNat? 10 digits, rest.drop digits.length)
    | rest => (none, rest)
  (readNat? 10 field).map fun n => (n, char, rest)

/-- The key that a text describes, or what is wrong with it. -/
def sortKey (standard : KeyOrder) (text : String) : Except String SortKey :=
  let parts := text.splitOn ","
  match keyEnd? (parts.headD "").toList, (parts[1]?).map fun part => keyEnd? part.toList with
  | none, _ =>
    .error ("invalid number at field start: invalid count at start of ‘" ++ text ++ "’")
  | some (0, _, _), _ =>
    .error ("field number is zero: invalid field specification ‘" ++ text ++ "’")
  | _, some none =>
    .error ("invalid number after ‘,’: invalid count at start of ‘" ++ (parts[1]?).getD "" ++ "’")
  | some (field, char, letters), last =>
    let more := (last.bind id).elim [] fun entry => entry.2.2
    let all := letters ++ more
    let order := if all.isEmpty then standard else .ofLetters all
    let last? := (last.bind id).map fun entry => (entry.1, entry.2.1.getD 0)
    .ok ⟨field, char.getD 1, last?, order⟩

/-- Lines of which each run of equal ones is one. -/
def withoutRepeats (same : String → String → Bool) : List String → List String
  | [] => []
  | first :: rest => first :: go first rest
where
  go (last : String) : List String → List String
    | [] => []
    | line :: rest => if same last line then go last rest else line :: go line rest

/-- The first line that is out of order, with its number. -/
def disorder? (isBefore : String → String → Bool) (n : Nat) : List String → Option (Nat × String)
  | first :: second :: rest =>
    if isBefore first second then disorder? isBefore (n + 1) (second :: rest)
    else some (n + 1, second)
  | _ => none

/-- Puts lines in order. -/
def sort : Program := fun _ =>
  withOptions ⟨"nrfbdghMVuscCmziRk:t:o:S:T:", [("numeric-sort", 'n'), ("reverse", 'r'),
    ("ignore-case", 'f'), ("unique", 'u'), ("stable", 's'), ("check", 'c'), ("key", 'k'),
    ("field-separator", 't'), ("output", 'o'), ("merge", 'm'), ("version-sort", 'V'),
    ("human-numeric-sort", 'h'), ("general-numeric-sort", 'g'), ("month-sort", 'M'),
    ("ignore-leading-blanks", 'b'), ("dictionary-order", 'd'), ("zero-terminated", 'z')], false⟩ 2
    fun options operands => do
      let has (letter : Char) : Bool := hasOption options letter
      let standard : KeyOrder := .ofLetters (options.map (·.1))
      let marks := (unescapedMark ((lastValue? options 't').getD "")).toList
      let mark := marks.head?
      let keys? := (options.filterMap fun option =>
        if option.1 == 'k' then some (sortKey standard option.2) else none).mapM id
      if 1 < marks.length then
        report ("multi-character tab ‘" ++ (lastValue? options 't').getD "" ++ "’")
        return 2
      else
        match keys? with
        | .error message =>
          report message
          return 2
        | .ok keys =>
          let whole : SortKey := ⟨1, 1, none, standard⟩
          let keys := if keys.isEmpty then [whole] else keys
          let byKeys (a b : String) : Ordering := compareKeys keys mark a.toList b.toList
          let byText (a b : String) : Ordering :=
            if has 's' || has 'u' then .eq
            else
              let found := Ord.compare a b
              if standard.reverse then found.swap else found
          let isBefore (a b : String) : Bool := (byKeys a b).then (byText a b) != .gt
          let same (a b : String) : Bool := byKeys a b = .eq
          let lineEnd := if has 'z' then "\x00" else "\n"
          let operands := if operands.isEmpty then ["-"] else operands
          let texts ← operands.mapM fun operand => return (operand, ← readOperand operand)
          match texts.find? fun text => text.2.toOption.isNone with
          | some (name, .error error) =>
            report ((if error = .isDirectory then "read failed: " else "cannot read: ") ++
              shownFile name ++
              ": " ++ error.text)
            return 2
          | _ =>
            let lines := texts.flatMap fun text =>
              let pieces := (text.2.toOption.getD "").splitOn lineEnd
              if pieces.getLast? = some "" then pieces.dropLast else pieces
            if has 'c' || has 'C' then
              let ordered (a b : String) : Bool :=
                if has 'u' then byKeys a b = .lt else isBefore a b
              match disorder? ordered 1 lines with
              | none => return 0
              | some (n, line) =>
                if has 'c' then
                  report (shownFile (operands.headD "-") ++ ":" ++ toString n ++
                    ": disorder: " ++ line)
                return 1
            else
              let sorted := lines.mergeSort isBefore
              let sorted := if has 'u' then withoutRepeats same sorted else sorted
              let text := String.join (sorted.map (· ++ lineEnd))
              match lastValue? options 'o' with
              | none =>
                say 1 text
                return 0
              | some path =>
                match ← openPath path .write with
                | .error error =>
                  report ("open failed: " ++ shownFile path ++ ": " ++ error.text)
                  return 2
                | .ok stream =>
                  connect fileDescriptor (some stream)
                  say fileDescriptor text
                  connect fileDescriptor none
                  return 0
where
  unescapedMark (text : String) : String := if text = "\\0" then "\x00" else text

/-- Runs of lines that are alike, each with its length. -/
def lineRuns (same : String → String → Bool) : List String → List (Nat × List String)
  | [] => []
  | line :: rest =>
    match lineRuns same rest with
    | (n, next :: others) :: more =>
      if same line next then (n + 1, line :: next :: others) :: more
      else (1, [line]) :: (n, next :: others) :: more
    | _ => [(1, [line])]

/-- A line as it is compared: without some fields and characters in front, and only so far. -/
def comparedPart (fields chars : Nat) (most : Option Nat) (line : String) : String :=
  let rec skip (fuel : Nat) (s : List Char) : List Char :=
    match fuel with
    | 0 => s
    | fuel + 1 =>
      skip fuel ((s.dropWhile fun c => c == ' ' || c == '\t').dropWhile
        fun c => !(c == ' ' || c == '\t'))
  let rest := (skip fields line.toList).drop chars
  String.ofList (most.elim rest rest.take)

/-- Makes one line of each run of equal lines. -/
def uniq : Program := fun _ =>
  withOptions ⟨"cduiDzf:s:w:", [("count", 'c'), ("repeated", 'd'), ("unique", 'u'),
    ("ignore-case", 'i'), ("skip-fields", 'f'), ("skip-chars", 's'), ("check-chars", 'w'),
    ("all-repeated", 'D')], false⟩ 1
    fun options operands => do
      let has (letter : Char) : Bool := hasOption options letter
      let number (letter : Char) : Option Nat := (lastValue? options letter).bind (·.toNat?)
      match ← readOperand (operands.headD "-") with
      | .error error =>
        report (shownFile (operands.headD "-") ++ ": " ++ error.text)
        return 1
      | .ok text =>
        let key (line : String) : String :=
          let part := comparedPart ((number 'f').getD 0) ((number 's').getD 0) (number 'w') line
          if has 'i' then part.toLower else part
        let runs := lineRuns (fun a b => key a == key b) (plainLines text)
        let shown := runs.filterMap fun (n, lines) =>
          let line := lines.headD ""
          if has 'D' then if 1 < n then some (String.join (lines.map (· ++ "\n"))) else none
          else if (has 'd' && n = 1) || (has 'u' && 1 < n) then none
          else if has 'c' then
            some (String.ofList (padLeft 7 ' ' (decimalDigits n)) ++ " " ++ line ++ "\n")
          else some (line ++ "\n")
        match operands[1]? with
        | none =>
          say 1 (String.join shown)
          return 0
        | some path =>
          match ← openPath path .write with
          | .error error =>
            report (shownFile path ++ ": " ++ error.text)
            return 1
          | .ok stream =>
            connect fileDescriptor (some stream)
            say fileDescriptor (String.join shown)
            connect fileDescriptor none
            return 0

/-- The lines of two sorted lists, each with the column that it stands in. -/
def merged (fuel : Nat) (first second : List String) : List (Nat × String) :=
  match fuel, first, second with
  | 0, _, _ => []
  | _, [], rest => rest.map fun line => (2, line)
  | _, rest, [] => rest.map fun line => (1, line)
  | fuel + 1, a :: as, b :: bs =>
    match Ord.compare a b with
    | .lt => (1, a) :: merged fuel as (b :: bs)
    | .gt => (2, b) :: merged fuel (a :: as) bs
    | .eq => (3, a) :: merged fuel as bs

/-- Compares two sorted files line by line. -/
def comm : Program := fun _ =>
  withOptions ⟨"123z", [], false⟩ 1 fun options operands => do
    match operands with
    | [] => refuseUsage "missing operand" 1
    | [only] => refuseUsage ("missing operand after " ++ namedFile only) 1
    | first :: second :: _ =>
      match ← readOperand first, ← readOperand second with
      | .error error, _ =>
        report (shownFile first ++ ": " ++ error.text)
        return 1
      | _, .error error =>
        report (shownFile second ++ ": " ++ error.text)
        return 1
      | .ok a, .ok b =>
        let as := plainLines a
        let bs := plainLines b
        let hidden (column : Nat) : Bool := hasOption options (Char.ofNat (48 + column))
        let indent (column : Nat) : String :=
          String.join ((List.range (column - 1)).map fun n => if hidden (n + 1) then "" else "\t")
        say 1 (String.join ((merged (as.length + bs.length + 1) as bs).map fun (column, line) =>
          if hidden column then "" else indent column ++ line ++ "\n"))
        return 0

end Runbook.Shell
