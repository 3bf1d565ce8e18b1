import Runbook.Number.Reading
import Runbook.Text.Utf8
import Runbook.Yaml.Token
import Runbook.Yaml.Token.Scalar

/-!
# Cutting a markup text into tokens

The lexer keeps the indentation of the open block collections and the places where a key without
a question mark may have started, at most one for each depth of flow collections. When the colon
of such a key is found, the key token is put in at its place, with the start of a block mapping in
front of it when the key opens one. A key ends on its line and within 1024 characters.
-/

namespace Runbook.Yaml

/-- A place where a key may have started. A required one stands where only a key can. -/
structure PossibleKey where
  depth : Nat
  position : Nat
  required : Bool
  index : Nat
  line : Nat
  column : Nat
  deriving Repr

/-- The state of the lexer. The tokens are kept latest first. -/
structure Lexer where
  cursor : Cursor
  depth : Nat
  tokens : List Token
  indent : Int
  indents : List Int
  keyMayStart : Bool
  keys : List PossibleKey
  deriving Repr

namespace Lexer

/-- The lexer at the start of a text. -/
def start (s : List Char) : Lexer := ⟨.ofText s, 0, [], -1, [], true, []⟩

/-- Whether the lexer is in a flow collection. -/
def inFlow (lx : Lexer) : Bool := lx.depth != 0

/-- Adds a token. -/
def emit (token : Token) (lx : Lexer) : Lexer := { lx with tokens := token :: lx.tokens }

/-- Puts a token in at a position counted from the first token. -/
def insertAt (position : Nat) (token : Token) (lx : Lexer) : Lexer :=
  let later := lx.tokens.length - position
  { lx with tokens := lx.tokens.take later ++ token :: lx.tokens.drop later }

/-- Moves the lexer by so many characters. -/
def forward (n : Nat) (lx : Lexer) : Lexer := { lx with cursor := lx.cursor.advance n }

/-- Says whether a key may start at the next token. -/
def allowKey (allowed : Bool) (lx : Lexer) : Lexer := { lx with keyMayStart := allowed }

/-- Ends the block collections that are indented deeper than the column. -/
def unwind (column : Int) (lx : Lexer) : Lexer :=
  if lx.inFlow then lx
  else
    let rec close (indent : Int) (tokens : List Token) : List Int → Int × List Int × List Token
      | [] => (indent, [], tokens)
      | outer :: indents =>
        if column < indent then close outer (.blockEnd :: tokens) indents
        else (indent, outer :: indents, tokens)
    let (indent, indents, tokens) := close lx.indent lx.tokens lx.indents
    { lx with indent, indents, tokens }

/-- Opens an indentation at the column if it is deeper than the last one. -/
def deepen? (column : Int) (lx : Lexer) : Option Lexer :=
  if lx.indent < column then some { lx with indent := column, indents := lx.indent :: lx.indents }
  else none

/-- Forgets the possible keys that can no longer end; a required one may not be forgotten. -/
def dropStaleKeys (lx : Lexer) : Option Lexer :=
  let stale (key : PossibleKey) : Bool :=
    key.line != lx.cursor.line || 1024 < lx.cursor.index - key.index
  if lx.keys.any fun key => stale key && key.required then none
  else some { lx with keys := lx.keys.filter fun key => !stale key }

/-- Forgets the possible key of the present depth; a required one may not be forgotten. -/
def dropKey (lx : Lexer) : Option Lexer :=
  if lx.keys.any fun key => key.depth == lx.depth && key.required then none
  else some { lx with keys := lx.keys.filter fun key => key.depth != lx.depth }

/-- Notes that a key may start here. -/
def noteKey (lx : Lexer) : Option Lexer :=
  if lx.keyMayStart then
    lx.dropKey.map fun lx =>
      let required := !lx.inFlow && lx.indent == lx.cursor.column
      { lx with keys := ⟨lx.depth, lx.tokens.length, required, lx.cursor.index, lx.cursor.line,
          lx.cursor.column⟩ :: lx.keys }
  else some lx

/-- Moves over spaces, comments and line breaks; behind a line break a key may start. -/
def skipGap (fuel : Nat) (lx : Lexer) : Lexer :=
  match fuel with
  | 0 => lx
  | fuel + 1 =>
    let cursor := lx.cursor.skipSpaces.skipComment
    if isBreak cursor.peek then
      skipGap fuel
        { lx with cursor := cursor.lineBreak.2, keyMayStart := lx.keyMayStart || !lx.inFlow }
    else { lx with cursor }

/-- Reads the text of a tag with its escaped bytes. -/
def uriChars (fuel : Nat) (cursor : Cursor) : Option (List Char × Cursor) :=
  match fuel with
  | 0 => none
  | fuel + 1 =>
    let isPlain (c : Char) : Bool :=
      c.isAlphanum || "-;/?:@&=+$,_.!~*()[]".toList.contains c || c == '\x27'
    let (run, cursor) := cursor.takeRun isPlain
    if cursor.peek == '%' then
      match escapedBytes (cursor.rest.length + 1) cursor with
      | none => none
      | some (bytes, cursor) =>
        match Text.decodeUtf8 bytes with
        | .error _ => none
        | .ok escaped =>
          (uriChars fuel cursor).map fun (more, cursor) => (run ++ escaped ++ more, cursor)
    else some (run, cursor)
where
  escapedBytes (fuel : Nat) (cursor : Cursor) : Option (List UInt8 × Cursor) :=
    match fuel with
    | 0 => none
    | fuel + 1 =>
      if cursor.peek == '%' then
        match readCode? 2 cursor.step with
        | none => none
        | some (code, cursor) =>
          (escapedBytes fuel cursor).map fun (more, cursor) => (code.toUInt8 :: more, cursor)
      else some ([], cursor)

/-- Reads the text of a tag, which is not empty. -/
def uri? (cursor : Cursor) : Option (List Char × Cursor) :=
  match uriChars (cursor.rest.length + 1) cursor with
  | some (text, after) => if after.index = cursor.index then none else some (text, after)
  | none => none

/-- Reads a handle: one exclamation mark, or a name between two. -/
def handle? (cursor : Cursor) : Option (List Char × Cursor) :=
  if cursor.peek == '!' then
    let (name, after) := cursor.step.takeRun isNameChar
    if cursor.peekAt 1 == ' ' then some (['!'], cursor.step)
    else if after.peek == '!' then some ('!' :: name ++ ['!'], after.step)
    else none
  else none

/-- Reads a run of digits that is not too long for a number. -/
def number? (cursor : Cursor) : Option (Nat × Cursor) :=
  let (digits, after) := cursor.takeRun Char.isDigit
  if maxDigits < digits.length then none else (readNat? 10 digits).map (·, after)

/-- Reads a directive behind its percent sign. -/
def directive? (cursor : Cursor) : Option (Token × Cursor) :=
  let (name, cursor) := cursor.takeRun isNameChar
  if name.isEmpty || !isSpaceOrEnd cursor.peek then none
  else
    let body : Option (Token × Cursor) :=
      if name = "YAML".toList then
        match number? cursor.skipSpaces with
        | none => none
        | some (major, cursor) =>
          if cursor.peek != '.' then none
          else
            match number? cursor.step with
            | none => none
            | some (_, cursor) =>
              if isSpaceOrEnd cursor.peek then some (.versionDirective major, cursor) else none
      else if name = "TAG".toList then
        match handle? cursor.skipSpaces with
        | none => none
        | some (handle, cursor) =>
          if cursor.peek != ' ' then none
          else
            match uri? cursor.skipSpaces with
            | none => none
            | some (tagPrefix, cursor) =>
              if isSpaceOrEnd cursor.peek then some (.tagDirective handle tagPrefix, cursor)
              else none
      else some (.otherDirective, cursor.skipLine)
    body.bind fun (token, cursor) =>
      let cursor := cursor.skipSpaces.skipComment
      if isLineEnd cursor.peek then some (token, cursor.lineBreak.2) else none

/-- Reads the name of an anchor or an alias behind its mark. -/
def anchorName? (cursor : Cursor) : Option (List Char × Cursor) :=
  let (name, after) := cursor.takeRun isNameChar
  let c := after.peek
  let ended := isGap c || "?:,]%@".toList.contains c || c == '\x7d' || c == '\x60'
  if name.isEmpty || !ended then none else some (name, after)

/-- Whether the text of a tag up to the next gap holds a second exclamation mark. -/
def usesHandle (cursor : Cursor) : Bool :=
  ((cursor.rest.drop 1).takeWhile fun c => !isSpaceOrEnd c).contains '!'

/-- Reads a tag: in angle brackets, a lone exclamation mark, or a handle with a suffix. -/
def tag? (cursor : Cursor) : Option (Token × Cursor) :=
  let c := cursor.peekAt 1
  let body : Option (Token × Cursor) :=
    if c == '<' then
      match uri? (cursor.advance 2) with
      | none => none
      | some (text, cursor) =>
        if cursor.peek == '>' then some (.tag none text, cursor.step) else none
    else if isGap c then some (.tag none ['!'], cursor.step)
    else
      let head := if usesHandle cursor then handle? cursor else some (['!'], cursor.step)
      head.bind fun (handle, cursor) =>
        (uri? cursor).map fun (suffix, cursor) => (.tag (some handle) suffix, cursor)
  body.bind fun (token, cursor) => if isSpaceOrEnd cursor.peek then some (token, cursor) else none

/-- Whether a plain scalar starts here. -/
def startsPlain (lx : Lexer) : Bool :=
  let c := lx.cursor.peek
  let special := "-?:,[]#&*!|>%@".toList.contains c || c == '\x7b' || c == '\x7d' || c == '\x27'
    || c == '\x22' || c == '\x60'
  (!isGap c && !special)
    || (!isGap (lx.cursor.peekAt 1) && (c == '-' || (!lx.inFlow && (c == '?' || c == ':'))))

/-- Ends all block collections before a directive or a mark of a document. -/
def endBlocks (lx : Lexer) : Option Lexer := (lx.unwind (-1)).dropKey.map (allowKey false)

/-- Opens a block collection at the column if it is deeper than the last one. -/
def openBlock (token : Token) (lx : Lexer) : Lexer :=
  match lx.deepen? lx.cursor.column with
  | some lx => lx.emit token
  | none => lx

/-- Reads the start of a flow collection. -/
def openFlow (token : Token) (lx : Lexer) : Option Lexer :=
  lx.noteKey.map fun lx =>
    (({ lx with depth := lx.depth + 1 }.allowKey true).forward 1).emit token

/-- Reads the end of a flow collection. -/
def closeFlow (token : Token) (lx : Lexer) : Option Lexer :=
  match lx.depth with
  | 0 => none
  | depth + 1 =>
    lx.dropKey.map fun lx => (({ lx with depth }.allowKey false).forward 1).emit token

/-- Reads the hyphen of a sequence entry. -/
def blockEntry (lx : Lexer) : Option Lexer :=
  if !lx.inFlow && !lx.keyMayStart then none
  else
    let lx := if lx.inFlow then lx else lx.openBlock .blockSequenceStart
    (lx.allowKey true).dropKey.map fun lx => (lx.forward 1).emit .blockEntry

/-- Reads the mark of a key or of a value for which no key was noted. -/
def explicitMark (token : Token) (lx : Lexer) : Option Lexer :=
  if !lx.inFlow && !lx.keyMayStart then none
  else
    let lx := if lx.inFlow then lx else lx.openBlock .blockMappingStart
    (lx.allowKey !lx.inFlow).dropKey.map fun lx => (lx.forward 1).emit token

/-- Reads the colon of a value; a key noted before it gets its token now. -/
def valueMark (lx : Lexer) : Option Lexer :=
  match lx.keys.find? fun key => key.depth == lx.depth with
  | none => lx.explicitMark .value
  | some key =>
    let lx := { lx with keys := lx.keys.filter fun key => key.depth != lx.depth }
    let lx := lx.insertAt key.position .key
    let lx :=
      if lx.inFlow then lx
      else
        match lx.deepen? key.column with
        | some lx => lx.insertAt key.position .blockMappingStart
        | none => lx
    some (((lx.allowKey false).forward 1).emit .value)

/-- Notes a key and adds a token that was read with a cursor behind it. -/
def emitKeyed (lx : Lexer) (read : Option (Token × Cursor)) : Option Lexer :=
  match lx.noteKey, read with
  | some lx, some (token, cursor) => some ({ lx.allowKey false with cursor }.emit token)
  | _, _ => none

/-- Reads a block scalar. -/
def readBlockScalar (folded : Bool) (lx : Lexer) : Option Lexer :=
  match (lx.allowKey true).dropKey, blockScalar folded lx.indent lx.cursor.step with
  | some lx, some (text, cursor) => some ({ lx with cursor }.emit (.scalar text false))
  | _, _ => none

/-- Reads a plain scalar. -/
def readPlain (lx : Lexer) : Option Lexer :=
  lx.noteKey.map fun lx =>
    let (text, keyMayStart, cursor) :=
      plainScalar (lx.cursor.rest.length + 1) lx.inFlow (lx.indent + 1) [] false lx.cursor
    { lx with keyMayStart, cursor }.emit (.scalar text true)

/-- Reads the mark of a document's start or end. -/
def documentMark (token : Token) (lx : Lexer) : Option Lexer :=
  lx.endBlocks.map fun lx => (lx.forward 3).emit token

/-- Reads the token at the cursor, which is not at the end of the text. -/
def readToken (lx : Lexer) : Option Lexer :=
  let cursor := lx.cursor
  let c := cursor.peek
  let gapAhead := isGap (cursor.peekAt 1)
  let quotedFrom := cursor.step
  let fuel := quotedFrom.rest.length + 1
  let scalarToken (read : Option (List Char × Cursor)) : Option (Token × Cursor) :=
    read.map fun (text, cursor) => (.scalar text false, cursor)
  if c == '%' && cursor.column == 0 then
    match lx.endBlocks, directive? cursor.step with
    | some lx, some (token, cursor) => some ({ lx with cursor }.emit token)
    | _, _ => none
  else if c == '-' && cursor.column == 0 && cursor.atMarks '-' then lx.documentMark .documentStart
  else if c == '.' && cursor.column == 0 && cursor.atMarks '.' then lx.documentMark .documentEnd
  else if c == '[' then lx.openFlow .flowSequenceStart
  else if c == '\x7b' then lx.openFlow .flowMappingStart
  else if c == ']' then lx.closeFlow .flowSequenceEnd
  else if c == '\x7d' then lx.closeFlow .flowMappingEnd
  else if c == ',' then (lx.allowKey true).dropKey.map fun lx => (lx.forward 1).emit .flowEntry
  else if c == '-' && gapAhead then lx.blockEntry
  else if c == '?' && (lx.inFlow || gapAhead) then lx.explicitMark .key
  else if c == ':' && (lx.inFlow || gapAhead) then lx.valueMark
  else if c == '*' then
    lx.emitKeyed ((anchorName? cursor.step).map fun (name, cursor) => (.alias name, cursor))
  else if c == '&' then
    lx.emitKeyed ((anchorName? cursor.step).map fun (name, cursor) => (.anchor name, cursor))
  else if c == '!' then lx.emitKeyed (tag? cursor)
  else if c == '|' && !lx.inFlow then lx.readBlockScalar false
  else if c == '>' && !lx.inFlow then lx.readBlockScalar true
  else if c == '\x27' then lx.emitKeyed (scalarToken (singleQuoted fuel quotedFrom))
  else if c == '\x22' then lx.emitKeyed
    ((doubleQuoted fuel quotedFrom).map fun (codes, cursor) => (.ofCodes codes, cursor))
  else if lx.startsPlain then lx.readPlain
  else none

/-- Reads the tokens up to the end of the text. -/
def run (fuel : Nat) (lx : Lexer) : Option (List Token) :=
  match fuel with
  | 0 => none
  | fuel + 1 =>
    match (lx.skipGap (lx.cursor.rest.length + 1)).dropStaleKeys with
    | none => none
    | some lx =>
      let lx := lx.unwind lx.cursor.column
      if lx.cursor.rest.isEmpty then
        ((lx.unwind (-1)).dropKey).map fun lx => (lx.emit .streamEnd).tokens.reverse
      else lx.readToken.bind (run fuel)

end Lexer

/-- The tokens of a text, if it has any reading. -/
def tokens? (s : List Char) : Option (List Token) :=
  if s.all isPrintable then (Lexer.start s).run (s.length + 2) else none

end Runbook.Yaml
