import Runbook.Console.Highlight
import Runbook.Console.Table
import Runbook.Run.Session

/-!
# Log lines

A record is written with the name of its level in a column of its own and its message broken in the
rest of the line. On a narrow console the column of the level gives way to one cell of the message.
How much is written depends on the level that is asked for.
-/

namespace Runbook

namespace Level

/-- The name of a level. -/
def name : Level → String
  | debug => "DEBUG"
  | info => "INFO"
  | warning => "WARNING"
  | error => "ERROR"
  | critical => "CRITICAL"

/-- The level with the given name. -/
def ofName? (s : String) : Option Level :=
  [debug, info, warning, error, critical].find? fun level => level.name = s

/-- The weight of a level. -/
def weight : Level → Nat
  | debug => 10
  | info => 20
  | warning => 30
  | error => 40
  | critical => 50

end Level

/-- How much of a run is logged. -/
inductive Verbosity where
  | quiet
  | normal
  | verbose
  deriving DecidableEq, Repr

namespace Verbosity

/-- The verbosity that flags ask for; to be quiet outweighs to be verbose. -/
def ofFlags (verbose : Int) (quiet : Bool) : Verbosity :=
  if quiet then .quiet else if 1 ≤ verbose then .verbose else .normal

/-- The least level that is logged. -/
def threshold : Verbosity → Level
  | quiet => .warning
  | normal => .info
  | verbose => .debug

/-- Whether records of a level are logged. -/
def shows (verbosity : Verbosity) (level : Level) : Bool :=
  verbosity.threshold.weight ≤ level.weight

end Verbosity

namespace Console

/-- The cells that the name of a level takes. -/
def levelCells : Nat := 8

/-- The name of a level with the blanks that fill its cells. -/
def levelText (level : Level) : List Char :=
  let name := level.name.toList
  name ++ List.replicate (levelCells - name.length) ' '

/-- The widths of the columns of a record: the level with a blank behind it, and the message, which
fills the rest and has at least one cell. Where this is too much, the wider column gives way, and an
empty message takes nothing. -/
def recordWidths (cells : Nat) (message : List Char) : Nat × Nat :=
  let level := cellNeeds cells 1 (List.replicate levelCells ' ')
  if level + 1 ≤ cells then (level, cells - level)
  else
    match columnWidths cells [level, 1] with
    | [level, rest] => (level, cellNeeds rest 0 message)
    | _ => (level, 0)

/-- What is highlighted in the message of a record. -/
def logPatterns : List Pattern := messagePatterns ++ [requestPattern]

/-- The lines of a record. -/
def recordLines (cells : Nat) (level : Level) (message : List Char) : List Line :=
  let (before, after) := recordWidths cells message
  let heads : List Line :=
    if before ≤ 1 then []
    else (wrap (before - 1) .ellipsis (levelText level)).map fun line =>
      [justify (before - 1) .ellipsis .left line, [' ']]
  let lines : List Line :=
    if after = 0 then []
    else
      let text := (StyledText.ofText (dropControls message)).highlight logPatterns
      (text.wrap after .fold).map fun line => (line.justify after .fold).pieces.fill after
  (List.range (max 1 (max heads.length lines.length))).map fun n =>
    (heads[n]?).getD (Line.fill before []) ++ (lines[n]?).getD (Line.fill after [])

/-- The text of a record; nothing if its level is not logged. -/
def recordText (cells : Nat) (verbosity : Verbosity) (level : Level) (message : String) : String :=
  if verbosity.shows level then
    printed cells (recordLines cells level message.toList)
  else ""

end Console

end Runbook
