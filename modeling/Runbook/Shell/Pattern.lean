/-!
# Patterns

A pattern is a text in which unquoted stars, question marks and sets in brackets have a meaning of
their own. A backslash that came from the value of a parameter protects the character behind it.
Where the language has them, groups of alternatives in parentheses are patterns too.
-/

namespace Runbook.Shell

/-- A character and whether it is quoted. -/
abbrev Marked := Char × Bool

/-- What a set may hold: the characters from one to another, or those of a class with a name. -/
inductive SetItem where
  | range (first last : Char)
  | named (name : String)
  deriving DecidableEq, Repr

/-- A part of a pattern. A group stands for one of its alternatives, repeated or not as its mark
says. -/
inductive PatternPart where
  | exactly (c : Char)
  | one
  | many
  | within (negated : Bool) (items : List SetItem)
  | group (mark : Char) (alternatives : List (List PatternPart))

/-- Which patterns are known: the mark of a set of all other characters besides the exclamation
mark, and groups; and whether letters stand for those of the other case too. -/
structure PatternStyle where
  caretNegates : Bool
  groups : Bool
  anyCase : Bool := false
  deriving DecidableEq, Repr

/-- Whether a character is in the class with a name. -/
def inClass (name : String) (c : Char) : Bool :=
  match name with
  | "alpha" => c.isAlpha
  | "digit" => c.isDigit
  | "alnum" => c.isAlphanum
  | "upper" => c.isUpper
  | "lower" => c.isLower
  | "space" => c == ' ' || ('\t' ≤ c && c ≤ '\r')
  | "blank" => c == ' ' || c == '\t'
  | "punct" => '!' ≤ c && c ≤ '~' && !c.isAlphanum
  | "print" => ' ' ≤ c && c ≤ '~'
  | "graph" => '!' ≤ c && c ≤ '~'
  | "cntrl" => c < ' ' || c == '\x7f'
  | "xdigit" => c.isDigit || ('a' ≤ c && c ≤ 'f') || ('A' ≤ c && c ≤ 'F')
  | "word" => c.isAlphanum || c == '_'
  | _ => false

/-- Whether a set holds a character. -/
def SetItem.has (item : SetItem) (c : Char) : Bool :=
  match item with
  | .range first last => first ≤ c && c ≤ last
  | .named name => inClass name c

/-- An item with letters of the other case. -/
def SetItem.recased (change : Char → Char) : SetItem → SetItem
  | .range first last => .range (change first) (change last)
  | .named "upper" => .named "lower"
  | .named "lower" => .named "upper"
  | .named name => .named name

/-- A part of a pattern in a style in which letters may stand for those of the other case. -/
def PatternPart.styled (style : PatternStyle) : PatternPart → PatternPart
  | .exactly c =>
    if style.anyCase && c.isAlpha then
      .within false [.range c.toLower c.toLower, .range c.toUpper c.toUpper]
    else .exactly c
  | .within negated items =>
    let others := items.map (SetItem.recased Char.toLower) ++
      items.map (SetItem.recased Char.toUpper)
    .within negated (if style.anyCase then items ++ others else items)
  | part => part

/-- The character that a text starts with, where a backslash protects the next one, and the text
behind it. -/
def literalAhead? : List Marked → Option (Char × List Marked)
  | ('\\', false) :: (c, _) :: rest => some (c, rest)
  | (c, _) :: rest => some (c, rest)
  | [] => none

/-- The name of the class that a text starts with behind a bracket, and the text behind it. -/
def classAhead? (s : List Marked) : Option (String × List Marked) :=
  match s with
  | (':', false) :: rest =>
    let name := (rest.takeWhile fun c => c.1.isAlpha).map (·.1)
    match rest.drop name.length with
    | (':', _) :: (']', _) :: after => some (String.ofList name, after)
    | _ => none
  | _ => none

/-- The items of a set up to its closing bracket, and the text behind it. The first item is never
the end. -/
def itemsAhead? (fuel : Nat) (isFirst : Bool) (s : List Marked) :
    Option (List SetItem × List Marked) :=
  match fuel with
  | 0 => none
  | fuel + 1 =>
    let more (item : SetItem) (rest : List Marked) : Option (List SetItem × List Marked) :=
      (itemsAhead? fuel false rest).map fun (items, rest) => (item :: items, rest)
    match s with
    | [] => none
    | (']', false) :: rest =>
      if isFirst then
        match rest with
        | ('-', false) :: (c, q) :: behind =>
          if (c, q) = (']', false) then more (.range ']' ']') rest else more (.range ']' c) behind
        | _ => more (.range ']' ']') rest
      else some ([], rest)
    | ('[', false) :: rest =>
      match classAhead? rest with
      | some (name, rest) => more (.named name) rest
      | none => rangeFrom more '[' rest
    | s =>
      match literalAhead? s with
      | some (c, rest) => rangeFrom more c rest
      | none => none
where
  rangeFrom (more : SetItem → List Marked → Option (List SetItem × List Marked)) (first : Char)
      (rest : List Marked) : Option (List SetItem × List Marked) :=
    match rest with
    | ('-', false) :: behind =>
      if behind.head? = some (']', false) then more (.range first first) rest
      else
        match literalAhead? behind with
        | some (last, rest) => more (.range first last) rest
        | none => none
    | _ => more (.range first first) rest

/-- The set that stands behind an opening bracket and the text behind it. -/
def setAhead? (style : PatternStyle) (s : List Marked) : Option (PatternPart × List Marked) :=
  let negated := s.head?.any fun c =>
    c = ('!', false) || (style.caretNegates && c = ('^', false))
  let s := if negated then s.drop 1 else s
  (itemsAhead? (s.length + 1) true s).map fun (items, rest) => (.within negated items, rest)

/-- The alternatives of a group up to its closing parenthesis, and the text behind it; `part` is the
one under way. -/
def alternativesAhead? (depth : Nat) (part : List Marked) :
    List Marked → Option (List (List Marked) × List Marked)
  | [] => none
  | (')', false) :: rest =>
    match depth with
    | 0 => some ([part], rest)
    | depth + 1 => alternativesAhead? depth (part ++ [(')', false)]) rest
  | ('|', false) :: rest =>
    match depth with
    | 0 => (alternativesAhead? 0 [] rest).map fun (parts, rest) => (part :: parts, rest)
    | depth + 1 => alternativesAhead? (depth + 1) (part ++ [('|', false)]) rest
  | ('(', false) :: rest => alternativesAhead? (depth + 1) (part ++ [('(', false)]) rest
  | c :: rest => alternativesAhead? depth (part ++ [c]) rest

/-- The pattern that a text spells. -/
def patternFrom (fuel : Nat) (style : PatternStyle) (s : List Marked) : List PatternPart :=
  match fuel, s with
  | 0, _ | _, [] => []
  | fuel + 1, (c, false) :: rest =>
    let group? : Option (PatternPart × List Marked) :=
      match style.groups && "?*+@!".toList.contains c, rest with
      | true, ('(', false) :: behind =>
        (alternativesAhead? 0 [] behind).map fun (parts, behind) =>
          (.group c (parts.map (patternFrom fuel style)), behind)
      | _, _ => none
    match group? with
    | some (part, behind) => part :: patternFrom fuel style behind
    | none =>
      match c with
      | '*' => .many :: patternFrom fuel style rest
      | '?' => .one :: patternFrom fuel style rest
      | '[' =>
        match setAhead? style rest with
        | some (part, after) => part.styled style :: patternFrom fuel style after
        | none => .exactly '[' :: patternFrom fuel style rest
      | '\\' =>
        match rest with
        | (d, _) :: rest => (PatternPart.exactly d).styled style :: patternFrom fuel style rest
        | [] => [.exactly '\\']
      | c => (PatternPart.exactly c).styled style :: patternFrom fuel style rest
  | fuel + 1, (c, true) :: rest =>
    (PatternPart.exactly c).styled style :: patternFrom fuel style rest

/-- The pattern that a text spells. -/
def patternOf (style : PatternStyle) (s : List Marked) : List PatternPart :=
  patternFrom s.length style s

/-- Whether a part that stands for one character stands for this one. -/
def PatternPart.accepts (part : PatternPart) (c : Char) : Bool :=
  match part with
  | .exactly d => c == d
  | .one => true
  | .many | .group _ _ => false
  | .within negated items => items.any (·.has c) != negated

/-- Whether a pattern without groups stands for a whole text. -/
def matchesParts : List PatternPart → List Char → Bool
  | [], s => s.isEmpty
  | .many :: pattern, [] => matchesParts pattern []
  | .many :: pattern, c :: s =>
    matchesParts pattern (c :: s) || matchesParts (.many :: pattern) s
  | part :: pattern, c :: s => part.accepts c && matchesParts pattern s
  | _ :: _, [] => false
termination_by pattern s => pattern.length + s.length

/-- Whether a pattern stands for a whole text. Groups are tried with every way to divide it. -/
def matchesGroups (fuel : Nat) (pattern : List PatternPart) (s : List Char) : Bool :=
  match fuel with
  | 0 => false
  | fuel + 1 =>
    match pattern with
    | [] => s.isEmpty
    | .many :: rest =>
      (List.range (s.length + 1)).any fun n => matchesGroups fuel rest (s.drop n)
    | .group mark alternatives :: rest =>
      let isOne (front : List Char) : Bool := alternatives.any fun p => matchesGroups fuel p front
      let cuts := List.range (s.length + 1)
      match mark with
      | '!' => cuts.any fun n => !isOne (s.take n) && matchesGroups fuel rest (s.drop n)
      | '@' => cuts.any fun n => isOne (s.take n) && matchesGroups fuel rest (s.drop n)
      | '?' => matchesGroups fuel rest s ||
          cuts.any fun n => isOne (s.take n) && matchesGroups fuel rest (s.drop n)
      | _ =>
        (mark == '*' && matchesGroups fuel rest s) ||
          cuts.any fun n =>
            isOne (s.take n) &&
              (matchesGroups fuel rest (s.drop n) ||
                (n != 0 && matchesGroups fuel (.group '*' alternatives :: rest) (s.drop n)))
    | part :: rest =>
      match s with
      | c :: s => part.accepts c && matchesGroups fuel rest s
      | [] => false

/-- Whether a part is a group. -/
def PatternPart.isGroup : PatternPart → Bool
  | .group _ _ => true
  | _ => false

/-- Whether a pattern stands for a whole text. -/
def matchesPattern (pattern : List PatternPart) (s : List Char) : Bool :=
  if pattern.any PatternPart.isGroup then
    matchesGroups (pattern.length + 2 * s.length + 8) pattern s
  else matchesParts pattern s

/-- Whether a text has a meaning as a pattern. -/
def isPattern (style : PatternStyle) : List Marked → Bool
  | [] => false
  | (c, quoted) :: rest =>
    (!quoted && ("*?[".toList.contains c ||
      (style.groups && "+@!".toList.contains c && rest.head? = some ('(', false)))) ||
        isPattern style rest

/-- The places where a pattern stands for the start of a text: the lengths of the starts, in
order. -/
def matchingStarts (pattern : List PatternPart) (s : List Char) : List Nat :=
  (List.range (s.length + 1)).filter fun n => matchesPattern pattern (s.take n)

/-- The lengths that are left when an end that the pattern stands for is dropped, in order. -/
def matchingEnds (pattern : List PatternPart) (s : List Char) : List Nat :=
  (List.range (s.length + 1)).filter fun n => matchesPattern pattern (s.drop n)

end Runbook.Shell
