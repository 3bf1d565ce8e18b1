import Runbook.Number.Reading
import Runbook.Shell.Pattern

/-!
# Regular expressions

Basic and extended regular expressions. Of all matches that start first the longest one is meant;
among these, each part takes as much as it can.
-/

namespace Runbook.Shell

/-- A regular expression. Groups are numbered from one; an occasion is a place where nothing is
taken. -/
inductive Regex where
  | empty
  | char (c : Char)
  | any
  | within (negated : Bool) (items : List SetItem)
  | lineStart
  | lineEnd
  | wordStart
  | wordEnd
  | wordEdge
  | notWordEdge
  | both (first second : Regex)
  | either (first second : Regex)
  | group (number : Nat) (inner : Regex)
  | times (least : Nat) (most : Option Nat) (inner : Regex)
  | again (number : Nat)
  deriving Inhabited

/-- Which expressions are known: those with bare operators or those with backslashes. -/
inductive RegexStyle where
  | basic
  | extended
  deriving DecidableEq, Repr

/-- What an expression is read from, with the number of groups so far. -/
structure RegexSource where
  rest : List Char
  groups : Nat

/-- The items of a set in brackets up to its end, and the text behind it. -/
def regexItems (fuel : Nat) (isFirst : Bool) (s : List Char) : Option (List SetItem × List Char) :=
  match fuel, s with
  | 0, _ | _, [] => none
  | fuel + 1, c :: rest =>
    if c == ']' && !isFirst then some ([], rest)
    else
      match c, rest with
      | '[', ':' :: rest =>
        let name := rest.takeWhile Char.isAlpha
        match rest.drop name.length with
        | ':' :: ']' :: rest =>
          (regexItems fuel false rest).map fun (items, rest) =>
            (.named (String.ofList name) :: items, rest)
        | _ => none
      | '[', mark :: d :: mark' :: ']' :: rest =>
        if (mark == '.' || mark == '=') && mark == mark' then
          (regexItems fuel false rest).map fun (items, rest) => (.range d d :: items, rest)
        else (regexItems fuel false (mark :: d :: mark' :: ']' :: rest)).map fun (items, rest) =>
          (.range '[' '[' :: items, rest)
      | c, '-' :: d :: after =>
        if d == ']' then
          (regexItems fuel false rest).map fun (items, rest) => (.range c c :: items, rest)
        else (regexItems fuel false after).map fun (items, rest) => (.range c d :: items, rest)
      | c, rest => (regexItems fuel false rest).map fun (items, rest) => (.range c c :: items, rest)

/-- The set behind an opening bracket, and the text behind it. -/
def regexSet (s : List Char) : Option (Regex × List Char) :=
  let (negated, s) :=
    match s with
    | '^' :: rest => (true, rest)
    | s => (false, s)
  (regexItems (s.length + 1) true s).map fun (items, rest) => (.within negated items, rest)

/-- The least and the greatest number of times behind an opening brace, and the text behind the
closing one. -/
def regexBounds (style : RegexStyle) (s : List Char) :
    Option (Nat × Option Nat × List Char) :=
  let low := s.takeWhile Char.isDigit
  let behind := s.drop low.length
  let close (rest : List Char) : Option (List Char) :=
    match style, rest with
    | .extended, '\x7d' :: rest => some rest
    | .basic, '\\' :: '\x7d' :: rest => some rest
    | _, _ => none
  let least := (readNat? 10 low).getD 0
  match behind with
  | ',' :: rest =>
    let high := rest.takeWhile Char.isDigit
    (close (rest.drop high.length)).map fun rest =>
      (least, if high.isEmpty then none else readNat? 10 high, rest)
  | rest => if low.isEmpty then none else (close rest).map fun rest => (least, some least, rest)

/-- The characters of words. -/
def isWordChar (c : Char) : Bool := c.isAlphanum || c == '_'

/-- The expression for a letter behind a backslash. -/
def regexLetter (c : Char) : Regex :=
  match c with
  | 'w' => .within false [.named "word"]
  | 'W' => .within true [.named "word"]
  | 's' => .within false [.named "space"]
  | 'S' => .within true [.named "space"]
  | '<' => .wordStart
  | '>' => .wordEnd
  | 'b' => .wordEdge
  | 'B' => .notWordEdge
  | '\x60' => .lineStart
  | '\x27' => .lineEnd
  | 'n' => .char '\n'
  | 't' => .char '\t'
  | c => .char c

/-- Whether an expression goes on with alternatives or ends. -/
def regexStops (style : RegexStyle) (depth : Nat) (s : List Char) : Bool :=
  match style, s with
  | _, [] => true
  | .extended, '|' :: _ => true
  | .extended, ')' :: _ => 0 < depth
  | .basic, '\\' :: '|' :: _ => true
  | .basic, '\\' :: ')' :: _ => true
  | _, _ => false

/-- The numbers of times that an operator in front of a text asks for, and the text behind it. -/
def regexTimes (style : RegexStyle) (s : List Char) : Option (Nat × Option Nat × List Char) :=
  match style, s with
  | _, '*' :: rest => some (0, none, rest)
  | .extended, '+' :: rest | .basic, '\\' :: '+' :: rest => some (1, none, rest)
  | .extended, '?' :: rest | .basic, '\\' :: '?' :: rest => some (0, some 1, rest)
  | .extended, '\x7b' :: rest | .basic, '\\' :: '\x7b' :: rest => regexBounds style rest
  | _, _ => none

mutual

/-- Reads alternatives. -/
def regexChoice (fuel : Nat) (style : RegexStyle) (depth : Nat) (source : RegexSource) :
    Option (Regex × RegexSource) :=
  match fuel with
  | 0 => none
  | fuel + 1 => do
    let (first, source) ← regexRun fuel style depth true source
    match style, source.rest with
    | .extended, '|' :: rest | .basic, '\\' :: '|' :: rest =>
      let (second, source) ← regexChoice fuel style depth { source with rest }
      return (.either first second, source)
    | _, _ => return (first, source)
termination_by structural fuel

/-- Reads what stands side by side. -/
def regexRun (fuel : Nat) (style : RegexStyle) (depth : Nat) (isFirst : Bool)
    (source : RegexSource) :
    Option (Regex × RegexSource) :=
  match fuel with
  | 0 => none
  | fuel + 1 => do
    if regexStops style depth source.rest then return (.empty, source)
    else
      let (first, source) ← regexOne fuel style depth isFirst source
      let (first, source) := regexRepeated fuel style first source
      let isAnchor :=
        match first with
        | .lineStart => true
        | _ => false
      let (second, source) ← regexRun fuel style depth (isFirst && isAnchor) source
      return (.both first second, source)
termination_by structural fuel

/-- Reads one piece. A star in front stands for itself. -/
def regexOne (fuel : Nat) (style : RegexStyle) (depth : Nat) (isFirst : Bool)
    (source : RegexSource) :
    Option (Regex × RegexSource) :=
  match fuel with
  | 0 => none
  | fuel + 1 =>
    let group (rest : List Char) : Option (Regex × RegexSource) := do
      let number := source.groups + 1
      let (inner, source) ← regexChoice fuel style (depth + 1) ⟨rest, number⟩
      match style, source.rest with
      | .extended, ')' :: rest | .basic, '\\' :: ')' :: rest =>
        return (.group number inner, { source with rest })
      | _, _ => none
    let plain (regex : Regex) (rest : List Char) : Option (Regex × RegexSource) :=
      some (regex, { source with rest })
    match style, source.rest with
    | _, [] => none
    | .extended, '(' :: rest => group rest
    | .basic, '\\' :: '(' :: rest => group rest
    | _, '[' :: rest => (regexSet rest).map fun (set, rest) => (set, { source with rest })
    | _, '.' :: rest => plain .any rest
    | .extended, '^' :: rest => plain .lineStart rest
    | .basic, '^' :: rest => plain (if isFirst then .lineStart else .char '^') rest
    | .extended, '$' :: rest => plain .lineEnd rest
    | .basic, '$' :: rest =>
      plain (if regexStops style depth rest then .lineEnd else .char '$') rest
    | .extended, '*' :: rest => if isFirst then plain .empty rest else plain (.char '*') rest
    | _, '\\' :: c :: rest =>
      if c.isDigit && c != '0' then plain (.again (c.toNat - 48)) rest
      else plain (regexLetter c) rest
    | _, ['\\'] => none
    | _, c :: rest => plain (.char c) rest
termination_by structural fuel

/-- Reads the operators that repeat a piece. -/
def regexRepeated (fuel : Nat) (style : RegexStyle) (inner : Regex) (source : RegexSource) :
    Regex × RegexSource :=
  match fuel with
  | 0 => (inner, source)
  | fuel + 1 =>
    match inner, regexTimes style source.rest with
    | .lineStart, _ => (inner, source)
    | _, some (least, most, rest) =>
      regexRepeated fuel style (.times least most inner) { source with rest }
    | _, none => (inner, source)
termination_by structural fuel

end

/-- The expression that a text spells. -/
def regexOf? (style : RegexStyle) (text : List Char) : Option Regex :=
  match regexChoice (4 * text.length + 8) style 0 ⟨text, 0⟩ with
  | some (regex, ⟨[], _⟩) => some regex
  | _ => none

/-- How far a match has come: the character before, the text ahead, the number of characters taken,
and what the groups stand for. -/
structure RegexPlace where
  before : Option Char
  rest : List Char
  taken : Nat
  groups : List (Nat × List Char)

namespace RegexPlace

/-- The place behind the next character. -/
def next (place : RegexPlace) : RegexPlace :=
  match place.rest with
  | c :: rest => { place with before := some c, rest, taken := place.taken + 1 }
  | [] => place

/-- The place behind so many characters. -/
def skip : Nat → RegexPlace → RegexPlace
  | 0, place => place
  | n + 1, place => skip n place.next

/-- Whether the place is between a word and something else: behind a word, and before one. -/
def edges (place : RegexPlace) : Bool × Bool :=
  (place.before.any isWordChar, place.rest.head?.any isWordChar)

end RegexPlace

/-- Places that differ in how far they are; the first of those alike is kept. -/
def distinctPlaces (places : List RegexPlace) : List RegexPlace :=
  (places.foldl (fun kept place =>
    if kept.any fun other => other.taken = place.taken then kept else place :: kept) []).reverse

/-- Whether two characters are alike; their case may not count. -/
def alike (foldsCase : Bool) (a b : Char) : Bool :=
  a == b || (foldsCase && a.toLower == b.toLower)

/-- Whether a set holds a character; its case may not count. -/
def holdsAlike (foldsCase : Bool) (items : List SetItem) (c : Char) : Bool :=
  items.any (·.has c) ||
    (foldsCase && (items.any (·.has c.toLower) || items.any (·.has c.toUpper)))

mutual

/-- The places where a match may end, those first that take the most. -/
def regexEnds (fuel : Nat) (foldsCase : Bool) (regex : Regex) (place : RegexPlace) :
    List RegexPlace :=
  match fuel with
  | 0 => []
  | fuel + 1 =>
    let one (holds : Char → Bool) : List RegexPlace :=
      if place.rest.head?.any holds then [place.next] else []
    let occasion (holds : Bool) : List RegexPlace := if holds then [place] else []
    match regex with
    | .empty => [place]
    | .char c => one (alike foldsCase c)
    | .any => one fun _ => true
    | .within negated items => one fun c => holdsAlike foldsCase items c != negated
    | .lineStart => occasion (place.before.isNone)
    | .lineEnd => occasion place.rest.isEmpty
    | .wordStart => occasion (!place.edges.1 && place.edges.2)
    | .wordEnd => occasion (place.edges.1 && !place.edges.2)
    | .wordEdge => occasion (place.edges.1 != place.edges.2)
    | .notWordEdge => occasion (place.edges.1 == place.edges.2)
    | .both first second =>
      distinctPlaces ((regexEnds fuel foldsCase first place).flatMap
        (regexEnds fuel foldsCase second))
    | .either first second =>
      distinctPlaces (regexEnds fuel foldsCase first place ++
        regexEnds fuel foldsCase second place)
    | .group number inner =>
      (regexEnds fuel foldsCase inner place).map fun after =>
        let text := place.rest.take (after.taken - place.taken)
        { after with groups := (number, text) :: after.groups.filter (·.1 != number) }
    | .times least most inner => regexTimesEnds fuel foldsCase least most inner place
    | .again number =>
      let text := (place.groups.lookup number).getD []
      if text.isPrefixOf place.rest then [RegexPlace.skip text.length place] else []
termination_by structural fuel

/-- The places where a repeated match may end. -/
def regexTimesEnds (fuel : Nat) (foldsCase : Bool) (least : Nat) (most : Option Nat) (inner : Regex)
    (place : RegexPlace) : List RegexPlace :=
  match fuel with
  | 0 => [place]
  | fuel + 1 =>
    if most = some 0 then [place]
    else
      let once := regexEnds fuel foldsCase inner place
      let onward := once.filter fun after => 0 < least || place.taken < after.taken
      let more := onward.flatMap
        (regexTimesEnds fuel foldsCase (least - 1) (most.map (· - 1)) inner)
      distinctPlaces (if least = 0 then more ++ [place] else more)
termination_by structural fuel

end

/-- A match: what stands before it, its text, the text behind it, and its groups. -/
structure RegexMatch where
  before : List Char
  text : List Char
  after : List Char
  groups : List (Nat × List Char)

/-- The longest match at a place. -/
def regexMatchAt (foldsCase : Bool) (regex : Regex) (place : RegexPlace) : Option RegexPlace :=
  let fuel := 8 * place.rest.length + 200
  (regexEnds fuel foldsCase regex place).foldl
    (fun best after =>
      if best.any fun other => after.taken ≤ other.taken then best else some after) none

/-- The first match at or behind a place. -/
def regexSearch (fuel : Nat) (foldsCase : Bool) (regex : Regex) (passed : List Char)
    (place : RegexPlace) : Option RegexMatch :=
  match fuel with
  | 0 => none
  | fuel + 1 =>
    let here := { place with taken := 0, groups := [] }
    match regexMatchAt foldsCase regex here with
    | some after =>
      some ⟨passed.reverse, here.rest.take after.taken, after.rest, after.groups⟩
    | none =>
      match place.rest with
      | [] => none
      | c :: _ => regexSearch fuel foldsCase regex (c :: passed) place.next

/-- The first match in a text. -/
def Regex.find? (regex : Regex) (foldsCase : Bool) (s : List Char) : Option RegexMatch :=
  regexSearch (s.length + 1) foldsCase regex [] ⟨none, s, 0, []⟩

/-- The first match in the rest of a text behind a character. -/
def Regex.findBehind? (regex : Regex) (foldsCase : Bool) (before : Option Char) (s : List Char) :
    Option RegexMatch :=
  regexSearch (s.length + 1) foldsCase regex [] ⟨before, s, 0, []⟩

end Runbook.Shell
