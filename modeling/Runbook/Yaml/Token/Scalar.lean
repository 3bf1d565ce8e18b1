import Runbook.Number.Written
import Runbook.Yaml.Cursor

/-!
# Scalars of a markup text

Scalars are written plainly, between quotes, or as a block of lines. Line breaks inside plain and
quoted scalars are folded: one break is a space, and of several breaks the first one goes. The
functions return the text of the scalar with the place behind it.
-/

namespace Runbook.Yaml

/-- The plain characters in front: up to a gap, a colon with a gap behind it, or in a flow
collection one of its marks. -/
def plainRun (inFlow : Bool) : List Char → List Char
  | [] => []
  | c :: rest =>
    let next := rest.headD endMark
    if isGap c || (c == ':' && (isGap next || (inFlow && isFlowMark next)))
        || (inFlow && (isFlowMark c || c == '?')) then []
    else c :: plainRun inFlow rest

/-- Reads the breaks and spaces that follow a line break inside a plain scalar; nothing when a
document ends there. -/
def plainBreaks (fuel : Nat) (cursor : Cursor) : Option (List Char) × Cursor :=
  match fuel with
  | 0 => (some [], cursor)
  | fuel + 1 =>
    if cursor.peek == ' ' then plainBreaks fuel cursor.step
    else if isBreak cursor.peek then
      let (brk, cursor) := cursor.lineBreak
      if cursor.atDocumentMarks then (none, cursor)
      else
        let (more, cursor) := plainBreaks fuel cursor
        (more.map (brk ++ ·), cursor)
    else (some [], cursor)

/-- Folds the breaks that follow a first one. -/
def foldBreaks (first rest : List Char) : List Char :=
  if first != ['\n'] then first ++ rest else if rest.isEmpty then [' '] else rest

/-- The spaces between the words of a plain scalar, whether they hold a line break, and the place
behind them. -/
def plainSpaces (cursor : Cursor) : List Char × Bool × Cursor :=
  let (spaces, cursor) := cursor.takeRun (· == ' ')
  if isBreak cursor.peek then
    let (brk, cursor) := cursor.lineBreak
    if cursor.atDocumentMarks then ([], true, cursor)
    else
      match plainBreaks (cursor.rest.length + 1) cursor with
      | (none, cursor) => ([], true, cursor)
      | (some more, cursor) => (foldBreaks brk more, true, cursor)
  else (spaces, false, cursor)

/-- Reads a plain scalar; the flag says whether a key may start behind it. -/
def plainScalar (fuel : Nat) (inFlow : Bool) (indent : Int) (spaces : List Char)
    (keyMayStart : Bool)
    (cursor : Cursor) : List Char × Bool × Cursor :=
  match fuel with
  | 0 => ([], keyMayStart, cursor)
  | fuel + 1 =>
    if cursor.peek == '#' then ([], keyMayStart, cursor)
    else
      let run := plainRun inFlow cursor.rest
      if run.isEmpty then ([], keyMayStart, cursor)
      else
        let (next, broken, cursor) := plainSpaces (cursor.advance run.length)
        if next.isEmpty || cursor.peek == '#' || (!inFlow && (cursor.column : Int) < indent) then
          (spaces ++ run, broken, cursor)
        else
          let (more, keyMayStart, cursor) := plainScalar fuel inFlow indent next broken cursor
          (spaces ++ run ++ more, keyMayStart, cursor)

/-- Reads the breaks inside a quoted scalar behind its first break. A document may not end there. -/
def quotedBreaks (fuel : Nat) (cursor : Cursor) : Option (List Char × Cursor) :=
  match fuel with
  | 0 => none
  | fuel + 1 =>
    if cursor.atDocumentMarks then none
    else
      let cursor := cursor.skipRun fun c => c == ' ' || c == '\t'
      if isBreak cursor.peek then
        let (brk, cursor) := cursor.lineBreak
        (quotedBreaks fuel cursor).map fun (more, cursor) => (brk ++ more, cursor)
      else some ([], cursor)

/-- The character for the letter behind a backslash. -/
def letterEscape? (c : Char) : Option Char :=
  if c == '0' then some '\x00'
  else if c == 'a' then some '\x07'
  else if c == 'b' then some '\x08'
  else if c == 't' || c == '\t' then some '\t'
  else if c == 'n' then some '\n'
  else if c == 'v' then some '\x0B'
  else if c == 'f' then some '\x0C'
  else if c == 'r' then some '\r'
  else if c == 'e' then some '\x1B'
  else if c == ' ' || c == '\x22' || c == '\\' || c == '/' then some c
  else if c == 'N' then some '\u0085'
  else if c == '_' then some '\u00A0'
  else if c == 'L' then some '\u2028'
  else if c == 'P' then some '\u2029'
  else none

/-- The number of digits of base sixteen that follow a letter behind a backslash. -/
def codeLength? (c : Char) : Option Nat :=
  if c == 'x' then some 2 else if c == 'u' then some 4 else if c == 'U' then some 8 else none

/-- The number written in so many digits of base sixteen at the cursor. -/
def readCode? (length : Nat) (cursor : Cursor) : Option (Nat × Cursor) :=
  let digits := cursor.rest.take length
  if digits.length = length then
    (readNat? 16 digits).map fun code => (code, cursor.advance length)
  else none

/-- Reads the escape behind a backslash that stands for one code point, which may be a half of a
character. -/
def escapedCode? (cursor : Cursor) : Option (Nat × Cursor) :=
  match letterEscape? cursor.peek with
  | some c => if cursor.rest.isEmpty then none else some (c.toNat, cursor.step)
  | none =>
    match codeLength? cursor.peek with
    | none => none
    | some length =>
      match readCode? length cursor.step with
      | none => none
      | some (code, cursor) => if code < 0x110000 then some (code, cursor) else none

/-- The code points of characters. -/
def codesOf (s : List Char) : List Nat := s.map Char.toNat

/-- Reads a scalar between double quotes behind its opening quote: its code points. -/
def doubleQuoted (fuel : Nat) (cursor : Cursor) : Option (List Nat × Cursor) :=
  match fuel with
  | 0 => none
  | fuel + 1 =>
    let c := cursor.peek
    let found (part : List Nat) (cursor : Cursor) : Option (List Nat × Cursor) :=
      (doubleQuoted fuel cursor).map fun (more, cursor) => (part ++ more, cursor)
    if cursor.rest.isEmpty then none
    else if c == '\x22' then some ([], cursor.step)
    else if c == '\\' then
      if isBreak (cursor.peekAt 1) then
        let (_, after) := cursor.step.lineBreak
        match quotedBreaks (after.rest.length + 1) after with
        | none => none
        | some (breaks, after) => found (codesOf breaks) after
      else
        match escapedCode? cursor.step with
        | none => none
        | some (code, after) => found [code] after
    else if c == ' ' || c == '\t' || isBreak c then
      let (spaces, after) := cursor.takeRun fun c => c == ' ' || c == '\t'
      if isBreak after.peek then
        let (brk, after) := after.lineBreak
        match quotedBreaks (after.rest.length + 1) after with
        | none => none
        | some (breaks, after) => found (codesOf (foldBreaks brk breaks)) after
      else found (codesOf spaces) after
    else found [c.toNat] cursor.step

/-- Reads a scalar between single quotes behind its opening quote; a doubled quote is a quote. -/
def singleQuoted (fuel : Nat) (cursor : Cursor) : Option (List Char × Cursor) :=
  match fuel with
  | 0 => none
  | fuel + 1 =>
    let c := cursor.peek
    let found (part : List Char) (cursor : Cursor) : Option (List Char × Cursor) :=
      (singleQuoted fuel cursor).map fun (more, cursor) => (part ++ more, cursor)
    if cursor.rest.isEmpty then none
    else if c == '\x27' then
      if cursor.peekAt 1 == '\x27' then found [c] (cursor.advance 2) else some ([], cursor.step)
    else if c == ' ' || c == '\t' || isBreak c then
      let (spaces, after) := cursor.takeRun fun c => c == ' ' || c == '\t'
      if isBreak after.peek then
        let (brk, after) := after.lineBreak
        match quotedBreaks (after.rest.length + 1) after with
        | none => none
        | some (breaks, after) => found (foldBreaks brk breaks) after
      else found spaces after
    else found [c] cursor.step

/-- What happens to the breaks at the end of a block of lines. -/
inductive Chomping where
  | clip
  | strip
  | keep
  deriving DecidableEq, Repr

/-- The chomping that a sign asks for. -/
def Chomping.ofSign? (c : Char) : Option Chomping :=
  if c == '+' then some .keep else if c == '-' then some .strip else none

/-- The indentation that a digit asks for; zero is none. -/
def indentDigit? (c : Char) : Option Nat := if c.isDigit then some (c.toNat - 48) else none

/-- Reads the sign and the digit behind the mark of a block scalar, in either order. -/
def blockHeader (cursor : Cursor) : Option (Chomping × Option Nat × Cursor) :=
  let (chomping, increment, cursor) :=
    match Chomping.ofSign? cursor.peek with
    | some chomping =>
      match indentDigit? (cursor.peekAt 1) with
      | some n => (chomping, some n, cursor.advance 2)
      | none => (chomping, none, cursor.step)
    | none =>
      match indentDigit? cursor.peek with
      | some n =>
        match Chomping.ofSign? (cursor.peekAt 1) with
        | some chomping => (chomping, some n, cursor.advance 2)
        | none => (.clip, some n, cursor.step)
      | none => (.clip, none, cursor)
  if increment = some 0 || !isSpaceOrEnd cursor.peek then none
  else
    let cursor := cursor.skipSpaces.skipComment
    if isLineEnd cursor.peek then some (chomping, increment, cursor.lineBreak.2) else none

/-- The empty lines in front of a block and the deepest column in them. -/
def blockIndentation (fuel : Nat) (deepest : Nat) (cursor : Cursor) : List Char × Nat × Cursor :=
  match fuel with
  | 0 => ([], deepest, cursor)
  | fuel + 1 =>
    if cursor.peek == ' ' then
      let cursor := cursor.step
      blockIndentation fuel (max deepest cursor.column) cursor
    else if isBreak cursor.peek then
      let (brk, cursor) := cursor.lineBreak
      let (more, deepest, cursor) := blockIndentation fuel deepest cursor
      (brk ++ more, deepest, cursor)
    else ([], deepest, cursor)

/-- The place behind the spaces up to a column. -/
def skipIndent (indent : Nat) (cursor : Cursor) : Cursor :=
  let spaces := (cursor.rest.takeWhile (· == ' ')).length
  cursor.advance (min spaces (indent - cursor.column))

/-- The empty lines at the cursor, with the indentation of the line behind them skipped. -/
def blockBreaks (fuel : Nat) (indent : Nat) (cursor : Cursor) : List Char × Cursor :=
  match fuel with
  | 0 => ([], cursor)
  | fuel + 1 =>
    let cursor := skipIndent indent cursor
    if isBreak cursor.peek then
      let (brk, cursor) := cursor.lineBreak
      let (more, cursor) := blockBreaks fuel indent cursor
      (brk ++ more, cursor)
    else ([], cursor)

/-- Reads the lines of a block at the given indentation: the text up to the end of the last line,
the break that ends it, and the breaks behind it. -/
def blockLines (fuel : Nat) (folded : Bool) (indent : Nat) (breaks : List Char) (cursor : Cursor) :
    List Char × List Char × List Char × Cursor :=
  match fuel with
  | 0 => ([], [], breaks, cursor)
  | fuel + 1 =>
    if cursor.column = indent ∧ !cursor.rest.isEmpty then
      let startsDense := cursor.peek != ' ' && cursor.peek != '\t'
      let (run, cursor) := cursor.takeRun fun c => !isBreak c
      let (brk, cursor) := cursor.lineBreak
      let (next, cursor) := blockBreaks (cursor.rest.length + 1) indent cursor
      if cursor.column = indent ∧ !cursor.rest.isEmpty then
        let joint :=
          if folded && brk == ['\n'] && startsDense && cursor.peek != ' ' &&
              cursor.peek != '\t' then
            (if next.isEmpty then [' '] else [])
          else brk
        let (more, last, after, cursor) := blockLines fuel folded indent next cursor
        (breaks ++ run ++ joint ++ more, last, after, cursor)
      else (breaks ++ run, brk, next, cursor)
    else ([], [], breaks, cursor)

/-- Reads a block scalar behind its mark, inside a collection of the given indentation. -/
def blockScalar (folded : Bool) (outer : Int) (cursor : Cursor) : Option (List Char × Cursor) :=
  match blockHeader cursor with
  | none => none
  | some (chomping, increment, cursor) =>
    let least := (max (outer + 1) 1).toNat
    let fuel := cursor.rest.length + 1
    let (breaks, indent, cursor) :=
      match increment with
      | none =>
        let (breaks, deepest, cursor) := blockIndentation fuel 0 cursor
        (breaks, max least deepest, cursor)
      | some n =>
        let (breaks, cursor) := blockBreaks fuel (least + n - 1) cursor
        (breaks, least + n - 1, cursor)
    let (text, last, after, cursor) := blockLines fuel folded indent breaks cursor
    match chomping with
    | .clip => some (text ++ last, cursor)
    | .strip => some (text, cursor)
    | .keep => some (text ++ last ++ after, cursor)

end Runbook.Yaml
