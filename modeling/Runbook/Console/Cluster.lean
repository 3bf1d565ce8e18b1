import Runbook.Console.CellWidth
import Runbook.Number.Power

/-!
# Clusters of characters

Characters that are shown as one, such as a letter with its marks or a joined picture, are a
cluster. A text is cut between clusters only; where a cut falls inside a wide one, a blank stands
for its first cell. A line is made of pieces that are shown in one style each; no cluster goes over
the end of a piece.
-/

namespace Runbook.Console

/-- Characters that are shown as one, and the cells that they take. -/
structure Cluster where
  text : List Char
  cells : Nat
  deriving DecidableEq, Repr

/-- The state of gathering clusters: those found, the last one first, the last character with a cell
of its own that can still become a picture, and whether a joiner stands in front. -/
structure Gathering where
  found : List Cluster
  last : Option Char
  joined : Bool

namespace Gathering

/-- Adds a character to the last cluster, which grows by some cells; the first character starts a
cluster without cells. -/
def attach (c : Char) (growth : Nat) (st : Gathering) : Gathering :=
  match st.found with
  | [] => { st with found := [⟨[c], 0⟩] }
  | cluster :: others =>
    { st with found := ⟨cluster.text ++ [c], cluster.cells + growth⟩ :: others }

/-- Adds a character. A joiner takes the next character into its cluster, unless it stands first. -/
def add (st : Gathering) (c : Char) : Gathering :=
  if st.joined then { st.attach c 0 with joined := false }
  else if c == joiner then { st.attach c 0 with joined := !st.found.isEmpty }
  else if c == pictureSelector then
    if st.last.any growsAsPicture then { st.attach c 1 with last := none } else st.attach c 0
  else
    let cells := charWidth c
    if cells = 0 then st.attach c 0
    else { st with found := ⟨[c], cells⟩ :: st.found, last := some c }

end Gathering

/-- The clusters of a text; together they are the text. -/
def clusters (s : List Char) : List Cluster :=
  (s.foldl Gathering.add ⟨[], none, false⟩).found.reverse

/-- The clusters in front that take at most so many cells; a wide one that takes more than the cells
left becomes a blank. -/
def cropClusters (cells : Nat) : List Cluster → List Char
  | [] => []
  | cluster :: rest =>
    if cells = 0 then []
    else if cluster.cells ≤ cells then cluster.text ++ cropClusters (cells - cluster.cells) rest
    else [' ']

/-- The text cut down to so many cells. -/
def crop (cells : Nat) (s : List Char) : List Char :=
  if width s ≤ cells then s else cropClusters cells (clusters s)

/-- The clusters cut into parts of at most so many cells; `used` cells of the first are taken. -/
def chopClusters (cells used : Nat) : List Cluster → List (List Char)
  | [] => [[]]
  | cluster :: rest =>
    let starts := cells < used + cluster.cells
    let parts := chopClusters cells ((if starts then 0 else used) + cluster.cells) rest
    let joined :=
      match parts with
      | part :: parts => (cluster.text ++ part) :: parts
      | [] => [cluster.text]
    if starts then [] :: joined else joined

/-- The text cut into parts of at most so many cells. A first cluster that is wider than a part
stands behind an empty part. -/
def chop (cells : Nat) (s : List Char) : List (List Char) := chopClusters cells 0 (clusters s)

/-- A line: its pieces from left to right. -/
abbrev Line := List (List Char)

namespace Line

/-- The number of cells that a line takes. -/
def cells (line : Line) : Nat := sumOf (line.map width)

/-- The text of the pieces in front that take at most so many cells; the first that does not leave a
cell free is cut. -/
def cropPieces (cells : Nat) : Line → List Char
  | [] => []
  | piece :: rest =>
    if width piece < cells then piece ++ cropPieces (cells - width piece) rest
    else crop cells piece

/-- The text of a line cut down to so many cells. -/
def crop (cells : Nat) (line : Line) : List Char :=
  if line.cells ≤ cells then line.flatten else cropPieces cells line

/-- The line with a piece of blanks that fills it up to so many cells. -/
def fill (cells : Nat) (line : Line) : Line :=
  if line.cells < cells then line ++ [List.replicate (cells - line.cells) ' '] else line

end Line

end Runbook.Console
