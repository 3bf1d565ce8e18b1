/-!
# Positions in a markup text

A cursor is the text that is still to be read together with the place reached: the number of
characters read, the line, and the column. A text has no null character, so that character can
stand for the end of the text.
-/

namespace Runbook.Yaml

/-- The characters that a markup text may hold. -/
def isPrintable (c : Char) : Bool :=
  let n := c.toNat
  n == 0x09 || n == 0x0A || n == 0x0D || (0x20 ≤ n && n ≤ 0x7E) || n == 0x85
    || (0xA0 ≤ n && n ≤ 0xD7FF) || (0xE000 ≤ n && n ≤ 0xFFFD) || 0x10000 ≤ n

/-- The characters that end a line. -/
def isBreak (c : Char) : Bool :=
  c == '\n' || c == '\r' || c.toNat == 0x85 || c.toNat == 0x2028 || c.toNat == 0x2029

/-- The mark for the end of the text. -/
def endMark : Char := '\x00'

/-- Whether a line ends here. -/
def isLineEnd (c : Char) : Bool := c == endMark || isBreak c

/-- Whether a line or a word ends here, where only the space divides words. -/
def isSpaceOrEnd (c : Char) : Bool := c == ' ' || isLineEnd c

/-- Whether a line or a word ends here. -/
def isGap (c : Char) : Bool := c == '\t' || isSpaceOrEnd c

/-- Whether a character divides the items of a flow collection or encloses them. -/
def isFlowMark (c : Char) : Bool :=
  c == ',' || c == '[' || c == ']' || c == '\x7b' || c == '\x7d'

/-- The characters of names: ASCII letters and digits, hyphen and underscore. -/
def isNameChar (c : Char) : Bool := c.isAlphanum || c == '-' || c == '_'

/-- A place in a text. -/
structure Cursor where
  rest : List Char
  index : Nat
  line : Nat
  column : Nat
  deriving Repr, Inhabited

namespace Cursor

/-- The start of a text. -/
def ofText (s : List Char) : Cursor := ⟨s, 0, 0, 0⟩

/-- The next character. -/
def peek (cursor : Cursor) : Char := cursor.rest.headD endMark

/-- The character so many places ahead. -/
def peekAt (cursor : Cursor) (n : Nat) : Char := (cursor.rest.drop n).headD endMark

/-- The place behind the next character. -/
def step (cursor : Cursor) : Cursor :=
  match cursor.rest with
  | [] => cursor
  | c :: rest =>
    let endsHere := isBreak c && !(c == '\r' && rest.head? == some '\n')
    if endsHere then ⟨rest, cursor.index + 1, cursor.line + 1, 0⟩
    else
      let width := if c.toNat == 0xFEFF then 0 else 1
      ⟨rest, cursor.index + 1, cursor.line, cursor.column + width⟩

/-- The place so many characters ahead. -/
def advance : Nat → Cursor → Cursor
  | 0, cursor => cursor
  | n + 1, cursor => advance n cursor.step

/-- The longest run of characters of a class, and the place behind it. -/
def takeRun (p : Char → Bool) (cursor : Cursor) : List Char × Cursor :=
  let run := cursor.rest.takeWhile p
  (run, cursor.advance run.length)

/-- The place behind the longest run of characters of a class. -/
def skipRun (p : Char → Bool) (cursor : Cursor) : Cursor := (cursor.takeRun p).2

/-- The place behind the spaces. -/
def skipSpaces (cursor : Cursor) : Cursor := cursor.skipRun (· == ' ')

/-- The place at the end of the line. -/
def skipLine (cursor : Cursor) : Cursor := cursor.skipRun fun c => !isBreak c

/-- The place at the end of the line when a comment starts here. -/
def skipComment (cursor : Cursor) : Cursor :=
  if cursor.peek == '#' then cursor.skipLine else cursor

/-- Reads a line break, if there is one. The breaks of ASCII and the next-line control are read
as a line feed, the separators of lines and paragraphs as themselves. -/
def lineBreak (cursor : Cursor) : List Char × Cursor :=
  let c := cursor.peek
  if c == '\r' || c == '\n' || c.toNat == 0x85 then
    (['\n'], if c == '\r' && cursor.peekAt 1 == '\n' then cursor.advance 2 else cursor.step)
  else if isBreak c then ([c], cursor.step)
  else ([], cursor)

/-- Whether three equal marks stand here as a word of their own. -/
def atMarks (c : Char) (cursor : Cursor) : Bool :=
  cursor.rest.take 3 == [c, c, c] && isGap (cursor.peekAt 3)

/-- Whether a document starts or ends here. -/
def atDocumentMarks (cursor : Cursor) : Bool := cursor.atMarks '-' || cursor.atMarks '.'

end Cursor

end Runbook.Yaml
