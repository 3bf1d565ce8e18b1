import Runbook.Shell.Format
import Runbook.Shell.Utility.Basic

/-!
# Counting

A program counts from a number to another one. Its steps are exact decimals, and the numbers have as
many places as the first one or the step.
-/

namespace Runbook.Shell

/-- A decimal as it is written: its value times a power of ten, the number of its places behind the
point, and the width of its text. -/
structure StepNumber where
  units : Int
  places : Nat
  width : Nat
  deriving DecidableEq, Repr

/-- The units of a decimal with so many places. -/
def StepNumber.unitsAt (number : StepNumber) (places : Nat) : Int :=
  number.units * tenTo (places - number.places)

/-- The decimal that a text spells. -/
def StepNumber.ofText? (text : String) : Option StepNumber :=
  let bare := text.toList.dropWhile separates
  let (negative, s) := splitSign bare
  let isHex := (s.take 2).map Char.toLower = ['0', 'x']
  let signed (n : Nat) : Int := if negative then -(n : Int) else n
  if isHex then (readNat? 16 (s.drop 2)).map fun n => ⟨signed n, 0, 0⟩
  else
    let whole := s.takeWhile Char.isDigit
    let rest := s.drop whole.length
    let part := if rest.head? = some '.' then (rest.drop 1).takeWhile Char.isDigit else []
    let rest := if rest.head? = some '.' then rest.drop (part.length + 1) else rest
    let width := (if negative then 1 else 0) + max 1 whole.length +
      if part.isEmpty then 0 else part.length + 1
    do
      let n ← readNat? 10 (whole ++ part)
      match rest with
      | [] => return ⟨signed n, part.length, width⟩
      | mark :: power =>
        if mark.toLower != 'e' then none
        else
          let (down, digits) := splitSign power
          let e ← readNat? 10 digits
          if down then return ⟨signed n, part.length + e, width⟩
          else
            let places := part.length - e
            return ⟨signed (n * tenTo (e - (part.length - places))), places, width⟩
where
  separates (c : Char) : Bool := c == ' ' || ('\t' ≤ c && c ≤ '\r')

/-- The texts of a run of decimals: their units and how one is written. -/
def countedTexts (fuel : Nat) (write : Int → String) (step last now : Int) : List String :=
  match fuel with
  | 0 => []
  | fuel + 1 =>
    if (0 < step && last < now) || (step < 0 && now < last) then []
    else write now :: countedTexts fuel write step last (now + step)

/-- A decimal in units with so many places, with zeros up to a width. -/
def decimalIn (places width : Nat) (units : Int) : String :=
  let body := fixedDigits (units.natAbs, tenTo places) places
  let sign := if units < 0 then ['-'] else []
  String.ofList (sign ++ padLeft (width - sign.length) '0' body)

/-- The text in front of the place in a form, and what stands behind it. -/
def formFront (fuel : Nat) (s : List Char) : List Char × List Char :=
  match fuel, s with
  | 0, _ => ([], s)
  | fuel + 1, '%' :: '%' :: rest =>
    let (front, behind) := formFront fuel rest
    ('%' :: front, behind)
  | _, [] => ([], [])
  | _, '%' :: _ => ([], s)
  | fuel + 1, c :: rest =>
    let (front, behind) := formFront fuel rest
    (c :: front, behind)

/-- The place of a form for one number, between what stands before it and behind it; or what is
wrong with the form. -/
def numberForm (form : String) : Except String (List Char × FormPlace × List Char) :=
  let (front, behind) := formFront (form.length + 1) form.toList
  let named := "format ‘" ++ form ++ "’ "
  match behind with
  | [] => .error (named ++ "has no % directive")
  | _ :: rest =>
    let flags := rest.takeWhile "-0+ #\x27".toList.contains
    let rest := rest.drop flags.length
    let width := rest.takeWhile Char.isDigit
    let rest := rest.drop width.length
    let precision := if rest.head? = some '.' then (rest.drop 1).takeWhile Char.isDigit else []
    let hasPoint := rest.head? = some '.'
    let rest := if hasPoint then rest.drop (precision.length + 1) else rest
    let rest := if rest.head? = some 'L' then rest.drop 1 else rest
    match rest with
    | [] => .error (named ++ "ends in %")
    | letter :: rest =>
      if !"efgaEFGA".toList.contains letter then
        .error (named ++ "has unknown %" ++ letter.toString ++ " directive")
      else
        let (last, more) := formFront (rest.length + 1) rest
        if !more.isEmpty then .error (named ++ "has too many % directives")
        else
          .ok (front,
            ⟨flags.contains '-', flags.contains '0', flags.contains '+', flags.contains ' ',
              flags.contains '#', (readNat? 10 width).getD 0,
              if hasPoint then some ((readNat? 10 precision).getD 0) else none, letter⟩, last)

/-- Whether a word in front of the operands is a number and no option. -/
def isNegativeNumber (word : String) : Bool :=
  match word.toList with
  | '-' :: c :: _ => c.isDigit || c == '.'
  | _ => false

/-- Counts from a number to another one. -/
def seq : Program := fun _ arguments =>
  let isOption (word : String) : Bool := word.startsWith "-" && !isNegativeNumber word
  let arguments :=
    if arguments.any isNegativeNumber && !arguments.contains "--" then
      let front := arguments.takeWhile (!isNegativeNumber ·)
      let lastTakes := front.getLast?.any fun word => ["-s", "-f"].contains word
      if lastTakes || front.any fun word => !isOption word then arguments
      else front ++ "--" :: arguments.drop front.length
    else arguments
  withOptions ⟨"f:s:w", [("format", 'f'), ("separator", 's'), ("equal-width", 'w')], true⟩ 1
    (fun options => needing "operand" fun operands => do
      match operands[3]?, operands.find? fun word => (StepNumber.ofText? word).isNone with
      | some extra, _ => refuseUsage ("extra operand ‘" ++ extra ++ "’") 1
      | none, some wrong =>
        if ["nan", "-nan", "+nan"].contains wrong.toLower then
          refuseUsage ("invalid ‘not-a-number’ argument: ‘" ++ wrong ++ "’") 1
        else refuseUsage ("invalid floating point argument: ‘" ++ wrong ++ "’") 1
      | none, none =>
        let one : StepNumber := ⟨1, 0, 1⟩
        let (first, step, last) :=
          match operands.filterMap StepNumber.ofText? with
          | [a, b, c] => (a, b, c)
          | [a, c] => (a, one, c)
          | numbers => (one, one, numbers.headD one)
        if step.units = 0 then
          refuseUsage ("invalid Zero increment value: ‘" ++ operands.getD 1 "" ++ "’") 1
        else
          let places := max first.places step.places
          let all := max places last.places
          let widthOf (number : StepNumber) : Nat :=
            if places = 0 && 0 < number.places then number.width - (number.places + 1)
            else
              number.width + (places - number.places) +
                (if number.places = 0 && 0 < places then 1 else 0) - (number.places - places)
          let width := if hasOption options 'w' then max (widthOf first) (widthOf last) else 0
          let unit : Int := tenTo (all - places)
          let plain (units : Int) : String := decimalIn places width (units / unit)
          let written : Except String (Int → String) :=
            match lastValue? options 'f' with
            | none => .ok plain
            | some form => (numberForm form).map fun (front, place, behind) units =>
                String.ofList (front ++
                  place.real (.fraction (units < 0) (units.natAbs, tenTo all)) ++ behind)
          match written with
          | .error message =>
            report message
            return 1
          | .ok write =>
            let texts := countedTexts 1000000 write (step.unitsAt all)
              (last.unitsAt all) (first.unitsAt all)
            let mark := (lastValue? options 's').getD "\n"
            if !texts.isEmpty then say 1 (mark.intercalate texts ++ "\n")
            return 0)
    arguments

end Runbook.Shell
