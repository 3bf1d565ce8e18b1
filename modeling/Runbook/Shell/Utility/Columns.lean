import Runbook.Shell.Format
import Runbook.Shell.Pattern
import Runbook.Shell.Utility.Basic

/-!
# Programs for parts of lines

Columns are cut out of lines, and characters are replaced by other ones.
-/

namespace Runbook.Shell

/-- A range of places in a line. -/
structure PlaceRange where
  first : Nat
  last : Option Nat
  deriving DecidableEq, Repr

/-- The ranges that a list of places describes, or what is wrong with it. -/
def placeRanges (what : String) (text : String) : Except String (List PlaceRange) :=
  (text.splitOn ",").mapM fun part =>
    match part.splitOn "-" with
    | [only] =>
      match only.toNat? with
      | some 0 => .error (what ++ " are numbered from 1")
      | some n => .ok ⟨n, some n⟩
      | none => .error ("invalid " ++ singular ++ " value ‘" ++ part ++ "’")
    | [first, last] =>
      match first.toNat?, last.toNat? with
      | some 0, _ => .error (what ++ " are numbered from 1")
      | some a, some b =>
        if b < a then .error "invalid decreasing range" else .ok ⟨a, some b⟩
      | some a, none => if last = "" then .ok ⟨a, none⟩ else .error "invalid range"
      | none, some b => if first = "" then .ok ⟨1, some b⟩ else .error "invalid range"
      | none, none => .error "invalid range with no endpoint: -"
    | _ => .error "invalid range"
where
  singular : String := if what = "fields" then "field" else "byte/character position"

/-- Whether a place is in one of some ranges. -/
def inRanges (ranges : List PlaceRange) (n : Nat) : Bool :=
  ranges.any fun range => range.first ≤ n && range.last.all (n ≤ ·)

/-- The items of a list whose places are picked. -/
def pickedPlaces {α : Type} (ranges : List PlaceRange) (complement : Bool) (items : List α) :
    List α :=
  (items.zip (List.range items.length)).filterMap fun (item, n) =>
    if inRanges ranges (n + 1) != complement then some item else none

/-- Cuts columns out of lines. -/
def cut : Program := fun _ =>
  withOptions ⟨"b:c:f:d:snzO:C", [("bytes", 'b'), ("characters", 'c'), ("fields", 'f'),
    ("delimiter", 'd'), ("only-delimited", 's'), ("output-delimiter", 'O'), ("complement", 'C')],
    false⟩ 1 run
where
  run (options : List (Char × String)) (operands : List String) : Act Nat := do
    let list? := options.find? fun option => "bcf".toList.contains option.1
    let mark := (lastValue? options 'd').getD "\t"
    match list? with
    | none => refuseUsage "you must specify a list of bytes, characters, or fields" 1
    | some (letter, text) =>
      if 1 < mark.length then refuseUsage "the delimiter must be a single character" 1
      else if letter != 'f' && hasOption options 'd' then
        refuseUsage "an input delimiter may be specified only when operating on fields" 1
      else
        match placeRanges (if letter == 'f' then "fields" else "byte/character positions") text with
        | .error message => refuseUsage message 1
        | .ok ranges =>
          let complement := hasOption options 'C'
          let outMark := (lastValue? options 'O').getD mark
          let fault (name : String) (error : DiskError) : String :=
            shownFile name ++ ": " ++ error.text
          forTexts operands fault fun _ text => do
            say 1 (String.join ((plainLines text).map fun line =>
              if letter == 'f' then
                let mark := if mark = "" then "\x00" else mark
                let fields := line.splitOn mark
                if fields.length = 1 then if hasOption options 's' then "" else line ++ "\n"
                else outMark.intercalate (pickedPlaces ranges complement fields) ++ "\n"
              else String.ofList (pickedPlaces ranges complement line.toList) ++ "\n"))
            return 0

/-- The octets of a class. -/
def classOctets (name : String) : List Char :=
  ((List.range 256).map Char.ofNat).filter fun c => c.toNat < 128 && inClass name c

/-- The octets that a set of the program for replacing describes, or what is wrong with it. A set
with an octet that is repeated to fill up tells which one. -/
def octetSet (fuel : Nat) (s : List (Char × Bool)) : Except String (List Char × Option Char) :=
  match fuel, s with
  | 0, _ | _, [] => .ok ([], none)
  | fuel + 1, (c, escaped) :: rest =>
    let add (octets : List Char) (rest : List (Char × Bool)) :
        Except String (List Char × Option Char) :=
      (octetSet fuel rest).map fun (more, fill) => (octets ++ more, fill)
    match c, escaped, rest with
    | '[', false, (':', false) :: after =>
      let name := String.ofList ((after.takeWhile fun d => d.1.isAlpha).map (·.1))
      match after.drop name.length with
      | (':', false) :: (']', false) :: behind => add (classOctets name) behind
      | _ => add [c] rest
    | '[', false, (d, _) :: ('*', false) :: after =>
      let digits := (after.takeWhile fun e => e.1.isDigit).map (·.1)
      match after.drop digits.length with
      | (']', false) :: behind =>
        match readNat? (if digits.head? = some '0' then 8 else 10) digits with
        | none | some 0 => (octetSet fuel behind).map fun (more, _) => (more, some d)
        | some n => add (List.replicate n d) behind
      | _ => add [c] rest
    | c, _, ('-', false) :: (d, _) :: after =>
      if d.toNat < c.toNat then
        .error ("range-endpoints of '" ++ c.toString ++ "-" ++ d.toString ++
          "' are in reverse collating sequence order")
      else
        add ((List.range (d.toNat + 1 - c.toNat)).map fun n => Char.ofNat (c.toNat + n)) after
    | c, _, rest => add [c] rest

/-- The octets of a set, with those behind backslashes marked. -/
def markedSet (fuel : Nat) (s : List Char) : List (Char × Bool) :=
  match fuel, s with
  | 0, _ | _, [] => []
  | fuel + 1, '\\' :: c :: rest =>
    let one (d : Char) : List (Char × Bool) := (d, true) :: markedSet fuel rest
    match c with
    | 'a' => one '\x07'
    | 'b' => one '\x08'
    | 'f' => one '\x0c'
    | 'n' => one '\n'
    | 'r' => one '\r'
    | 't' => one '\t'
    | 'v' => one '\x0b'
    | c =>
      let digits := ((c :: rest).take 3).takeWhile fun d => '0' ≤ d && d ≤ '7'
      if digits.isEmpty then one c
      else
        (Char.ofNat (((readNat? 8 digits).getD 0) % 256), true) ::
          markedSet fuel ((c :: rest).drop digits.length)
  | fuel + 1, c :: rest => (c, false) :: markedSet fuel rest

/-- A text in which runs of an octet of a set are one. -/
def squeezed (set : List Char) : List Char → List Char
  | a :: b :: rest =>
    if a == b && set.contains a then squeezed set (b :: rest) else a :: squeezed set (b :: rest)
  | rest => rest

/-- Replaces, deletes or squeezes octets. -/
def tr : Program := fun _ =>
  withOptions ⟨"cCdst", [("complement", 'c'), ("delete", 'd'), ("squeeze-repeats", 's'),
    ("truncate-set1", 't')], true⟩ 1
    fun options operands => do
      let has (letter : Char) : Bool := hasOption options letter
      let set (text : String) : Except String (List Char × Option Char) :=
        octetSet (text.length + 1) (markedSet (text.length + 1) text.toList)
      let needsTwo := if has 'd' then has 's' else !has 's'
      match operands with
      | [] => refuseUsage "missing operand" 1
      | [only] =>
        if needsTwo then
          report ("missing operand after ‘" ++ only ++ "’")
          say 2 ((if has 'd' then
              "Two strings must be given when both deleting and squeezing repeats.\n"
            else "Two strings must be given when translating.\n") ++ "Try '" ++ (← get).name ++
            " --help' for more information.\n")
          return 1
        else
          match set only with
          | .error message =>
            report message
            return 1
          | .ok (octets, _) =>
            let isIn (c : Char) : Bool := octets.contains c != (has 'c' || has 'C')
            if has 'd' then passChanged (List.filter fun c => !isIn c)
            else passWhole (squeezed (((List.range 256).map Char.ofNat).filter isIn))
      | first :: second :: more =>
        match more with
        | extra :: _ => refuseUsage ("extra operand ‘" ++ extra ++ "’") 1
        | [] =>
          if has 'd' && !has 's' then
            report ("extra operand ‘" ++ second ++ "’")
            say 2 ("Only one string may be given when deleting without squeezing repeats.\nTry '" ++
              (← get).name ++ " --help' for more information.\n")
            return 1
          else
            match set first, set second with
            | .error message, _ | _, .error message =>
              report message
              return 1
            | .ok (octets, _), .ok (others, fill) =>
              let isComplement := has 'c' || has 'C'
              let octets :=
                if isComplement then
                  ((List.range 256).map Char.ofNat).filter fun c => !octets.contains c
                else octets
              if has 'd' then
                passWhole fun text => squeezed others (text.filter fun c => !octets.contains c)
              else if others.isEmpty && fill.isNone && !has 't' then
                report "when not truncating set1, string2 must be non-empty"
                return 1
              else
                let filler := fill.getD (others.getLast?.getD '\x00')
                let octets := if has 't' then octets.take others.length else octets
                let targets := others ++ List.replicate (octets.length - others.length) filler
                let pairs := (octets.zip targets).reverse
                let replace (c : Char) : Char := (pairs.lookup c).getD c
                if has 's' then passWhole fun text => squeezed targets (text.map replace)
                else passChanged (List.map replace)
where
  passChanged (change : List Char → List Char) : Act Nat := do
    told (← passOn 0 fun text => say 1 (String.ofList (change text.toList)))
  passWhole (change : List Char → List Char) : Act Nat := do
    match ← readAll 0 with
    | .ok text =>
      say 1 (String.ofList (change text.toList))
      return 0
    | .error error => told (some error)
  told : Option DiskError → Act Nat
    | none => return 0
    | some error => do
      report ("read error: " ++ error.text)
      return 1

end Runbook.Shell
