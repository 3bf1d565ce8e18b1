import Runbook.Console.Action
import Runbook.Console.Emoji
import Runbook.Console.Style
import Runbook.Console.Wrap

/-!
# Console markup

A tag is a name in brackets that starts with a small letter, a number sign, a slash or an at sign.
A backslash before a tag makes it text, and two backslashes before it are one. A tag with a slash
closes the last open tag, or the last one of the same style. A tag that stays open is closed at the
end.
-/

namespace Runbook.Console

/-- The characters that start a tag. -/
def startsTag (c : Char) : Bool := ('a' ≤ c && c ≤ 'z') || c == '#' || c == '/' || c == '@'

/-- A tag at the start of a text: the number of backslashes before it, what its brackets hold, and
the text behind it. -/
def tagAt? (s : List Char) : Option (Nat × List Char × List Char) :=
  let backslashes := (s.takeWhile (· == '\\')).length
  match s.drop backslashes with
  | '[' :: c :: rest =>
    if startsTag c then
      let body := rest.takeWhile fun c => c != '[' && c != ']'
      match rest.drop body.length with
      | ']' :: after => some (backslashes, c :: body, after)
      | _ => none
    else none
  | _ => none

theorem length_tagAt? {s body rest : List Char} {n : Nat} (h : tagAt? s = some (n, body, rest)) :
    rest.length < s.length := by
  unfold tagAt? at h
  dsimp only at h
  split at h
  · next c tail hd =>
    split at h
    · split at h
      · next after ha =>
        cases h
        have h1 := congrArg List.length hd
        have h2 := congrArg List.length ha
        simp only [List.length_drop, List.length_cons] at h1 h2
        omega
      · cases h
    · cases h
  · cases h

/-- A part of a marked text: characters, or a tag with the number of backslashes before it. -/
inductive Part where
  | plain (text : List Char)
  | tag (backslashes : Nat) (body : List Char)
  deriving DecidableEq, Repr

/-- Puts a character in front of the first part. -/
def prependPlain (c : Char) : List Part → List Part
  | .plain text :: parts => .plain (c :: text) :: parts
  | parts => .plain [c] :: parts

/-- The parts of a marked text. -/
def parts (s : List Char) : List Part :=
  match h : tagAt? s with
  | some (n, body, rest) =>
    have := length_tagAt? h
    .tag n body :: parts rest
  | none =>
    match s with
    | [] => []
    | c :: rest => prependPlain c (parts rest)
termination_by s.length

/-- The text of a part as it stands in the marked text. -/
def Part.source : Part → List Char
  | .plain text => text
  | .tag n body => List.replicate n '\\' ++ '[' :: body ++ [']']

/-- A part written so that it is read as the text that it is. -/
def Part.escaped : Part → List Char
  | .plain text => text
  | .tag n body => List.replicate (2 * n + 1) '\\' ++ '[' :: body ++ [']']

/-- A backslash at the end, standing alone, is doubled. -/
def protectEnd (s : List Char) : List Char :=
  match s.reverse with
  | ['\\'] => ['\\', '\\']
  | '\\' :: c :: _ => if c == '\\' then s else s ++ ['\\']
  | _ => s

/-- The text written so that markup reads it as it is. -/
def escape (s : List Char) : List Char := protectEnd ((parts s).flatMap Part.escaped)

/-- The text in which a backslash before a bracket is dropped. -/
def dropBracketEscapes : List Char → List Char
  | '\\' :: '[' :: rest => '[' :: dropBracketEscapes rest
  | c :: rest => c :: dropBracketEscapes rest
  | [] => []

/-- The text of a plain part, with its pictures. -/
def plainText (s : List Char) : List Char := replaceCodes (dropBracketEscapes s)

/-- Why a marked text cannot be shown: a closing tag has no opening one, or closes an action that
cannot be read, or a tag holds a style with a bad shade, or the text is to be shown in a style that
is not known. -/
inductive MarkupFault where
  | unmatchedTag
  | badAction
  | badShade
  | unknownStyle
  deriving DecidableEq, Repr

/-- An open tag: the place where it starts, its name, and what stands behind the equals sign. -/
structure OpenTag where
  start : Nat
  name : String
  parameter : List Char

/-- The words of the style that an open tag stands for. -/
def OpenTag.words (tag : OpenTag) : List Char := tag.name.toList ++ ' ' :: tag.parameter

/-- Removes the first open tag with the name. -/
def closeNamed (name : String) : List OpenTag → Option (OpenTag × List OpenTag)
  | [] => none
  | tag :: tags =>
    if tag.name = name then some (tag, tags)
    else (closeNamed name tags).map fun (found, tags) => (found, tag :: tags)

/-- The state of reading a marked text: what it shows so far, the open tags, the last one first, the
spans of those closed, and whether a style with a bad shade shows something. -/
structure Marking where
  text : List Char
  tags : List OpenTag
  spans : List Span
  isBad : Bool

namespace Marking

/-- Adds text that is shown. -/
def add (s : List Char) (marking : Marking) : Marking :=
  { marking with text := marking.text ++ dropControls (plainText s) }

/-- Ends the style or the action of a tag at the end of the text so far. -/
def finish (marking : Marking) (tag : OpenTag) (tags : List OpenTag) : Marking :=
  let isBad := tag.start < marking.text.length && styleOf tag.words matches .error .badShade
  { marking with
    tags, spans := ⟨tag.start, marking.text.length⟩ :: marking.spans
    isBad := marking.isBad || isBad }

/-- Ends what a closing tag closes; an action must be one that can be read. -/
def finishRead (marking : Marking) (tag : OpenTag) (tags : List OpenTag) :
    Except MarkupFault Marking :=
  if tag.name.startsWith "@" && !tag.parameter.isEmpty && !isAction tag.parameter then
    .error .badAction
  else .ok (marking.finish tag tags)

/-- Applies a tag; a closing tag needs its opening one. -/
def apply (body : List Char) (marking : Marking) : Except MarkupFault Marking :=
  let before := body.takeWhile (· != '=')
  let named (s : List Char) (act : String → Except MarkupFault Marking) :
      Except MarkupFault Marking :=
    match styleName s with
    | .ok name => act name
    | .error _ => .error .badShade
  match before with
  | '/' :: rest =>
    let rest := Text.trim rest
    if rest.isEmpty then
      match marking.tags with
      | tag :: tags => marking.finishRead tag tags
      | [] => .error .unmatchedTag
    else
      named rest fun name =>
        match closeNamed name marking.tags with
        | some (tag, tags) => marking.finishRead tag tags
        | none => .error .unmatchedTag
  | _ =>
    named before fun name =>
      let tag : OpenTag := ⟨marking.text.length, name, body.drop (before.length + 1)⟩
      .ok { marking with tags := tag :: marking.tags }

/-- Reads a part of a marked text. -/
def read (marking : Marking) : Part → Except MarkupFault Marking
  | .plain text => .ok (marking.add text)
  | .tag n body =>
    let marking := marking.add (List.replicate (n / 2) '\\')
    if n % 2 = 1 then .ok (marking.add ('[' :: body ++ [']'])) else marking.apply body

/-- Closes the tags that are still open. -/
def close (marking : Marking) : Marking :=
  marking.tags.foldl (fun marking tag => marking.finish tag []) marking

end Marking

/-- Whether a message can be shown in a style. -/
def shownStyle (name : String) : Except MarkupFault Unit :=
  if themeStyles.contains name then .ok ()
  else
    match styleOf name.toList with
    | .ok _ => .ok ()
    | .error .badShade => .error .badShade
    | .error .unknownWord =>
      if Text.trim name.toList = "none".toList then .ok () else .error .unknownStyle

namespace StyledText

/-- A text in one style. -/
def plain (s : List Char) : StyledText := .ofText (dropControls (replaceCodes s))

/-- The text that a marked text shows. -/
def ofMarkup (s : List Char) : Except MarkupFault StyledText :=
  if s.contains '[' then
    ((parts s).foldlM Marking.read ⟨[], [], [], false⟩).bind fun marking =>
      let marking := marking.close
      if marking.isBad then .error .badShade else .ok ⟨marking.text, marking.spans⟩
  else .ok (plain s)

end StyledText

end Runbook.Console
