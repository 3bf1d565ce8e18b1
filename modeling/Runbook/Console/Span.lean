import Runbook.Console.Cluster

/-!
# Styled texts

A styled text is a text with spans, the parts of it that are shown in a style. A cut of the text
cuts its spans; a span without a character is lost there. The pieces of the text end where a span
starts or ends.
-/

namespace Runbook.Console

/-- A part of a text: the place where it starts, and the place behind it. -/
structure Span where
  start : Nat
  stop : Nat
  deriving DecidableEq, Repr

namespace Span

/-- What a span covers of the characters from one place up to another, counted from the first. -/
def within? (first last : Nat) (span : Span) : Option Span :=
  let start := max first span.start
  let stop := min last span.stop
  if start < stop then some ⟨start - first, stop - first⟩ else none

/-- The span behind so many more characters. -/
def shift (count : Nat) (span : Span) : Span := ⟨count + span.start, count + span.stop⟩

end Span

/-- A text and its spans. -/
structure StyledText where
  text : List Char
  spans : List Span
  deriving Repr

namespace StyledText

/-- A text without spans. -/
def ofText (s : List Char) : StyledText := ⟨s, []⟩

/-- Two texts, one behind the other. -/
def append (t u : StyledText) : StyledText :=
  ⟨t.text ++ u.text, t.spans ++ u.spans.map (Span.shift t.text.length)⟩

/-- The text with more blanks; the spans that end with the text grow. -/
def extend (count : Nat) (t : StyledText) : StyledText :=
  let grow (span : Span) : Span :=
    if t.text.length ≤ span.stop then { span with stop := span.stop + count } else span
  ⟨t.text ++ List.replicate count ' ', t.spans.map grow⟩

/-- The spans kept for another text in place of this one; a span goes no farther than the text. -/
def withText (s : List Char) (t : StyledText) : StyledText :=
  if t.text.length ≤ s.length then ⟨s, t.spans⟩
  else
    ⟨s, (t.spans.filter fun span => span.start < s.length).map fun span =>
      { span with stop := min s.length span.stop }⟩

/-- The texts between places in increasing order; `start` is the place where the text starts in the
whole that the spans belong to. -/
def slicesFrom (spans : List Span) (start : Nat) (text : List Char) : List Nat → List StyledText
  | [] => [⟨text, spans.filterMap (Span.within? start (start + text.length))⟩]
  | place :: places =>
    ⟨text.take (place - start), spans.filterMap (Span.within? start place)⟩
      :: slicesFrom spans place (text.drop (place - start)) places

/-- The texts between places in increasing order. -/
def cut (places : List Nat) (t : StyledText) : List StyledText :=
  if places.isEmpty then [t] else slicesFrom t.spans 0 t.text places

/-- The places behind the separators of a text that starts at `start`. -/
def placesBehind (separator : Char) (start : Nat) : List Char → List Nat
  | [] => []
  | c :: rest =>
    let places := placesBehind separator (start + 1) rest
    if c == separator then (start + 1) :: places else places

/-- The texts that end behind a separator, and the last one. -/
def splitBehind (separator : Char) (t : StyledText) : List StyledText :=
  t.cut (placesBehind separator 0 t.text)

/-- The text without the separator at its end. -/
def dropSeparator (separator : Char) (t : StyledText) : StyledText :=
  if t.text.getLast? = some separator then t.withText t.text.dropLast else t

/-- The lines of a text. -/
def lines (t : StyledText) : List StyledText :=
  (t.splitBehind '\n').map (dropSeparator '\n')

/-- The parts of a text between places in increasing order; `start` is the place of its start. -/
def partsFrom (start : Nat) (s : List Char) : List Nat → List (List Char)
  | [] => [s]
  | place :: places =>
    s.take (place - start) :: partsFrom place (s.drop (place - start)) places

/-- The pieces of a text. -/
def pieces (t : StyledText) : Line :=
  let places := t.spans.flatMap fun span => [span.start, span.stop]
  let inside := places.filter fun place => 0 < place && place < t.text.length
  partsFrom 0 t.text inside.mergeSort

end StyledText

end Runbook.Console
