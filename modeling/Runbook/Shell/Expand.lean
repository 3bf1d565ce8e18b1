import Runbook.Shell.Brace
import Runbook.Shell.Child
import Runbook.Shell.Field
import Runbook.Shell.Reader
import Runbook.Shell.Tilde

/-!
# Expansion of words

The words of a command become texts when it is run: parameters, sums and commands in them are
replaced by what they give. How commands are run is left open.
-/

namespace Runbook.Shell

/-- The value of a parameter: none, one text, or several that are joined or stay apart. -/
inductive ParamValue where
  | absent
  | one (text : String)
  | many (texts : List String) (joined : Bool)
  deriving DecidableEq, Repr

namespace ParamValue

/-- All texts of a value. -/
def texts : ParamValue → List String
  | absent => []
  | one text => [text]
  | many texts _ => texts

/-- Whether there is a value; an empty one may count as none. -/
def isThere (value : ParamValue) (emptyToo extended : Bool) : Bool :=
  match value with
  | absent => false
  | one text => !emptyToo || text != ""
  | many texts _ =>
    if extended && texts.isEmpty then false
    else !emptyToo || (texts.any (· != "") || 1 < texts.length)

/-- The value with each text changed. -/
def map (value : ParamValue) (change : String → String) : ParamValue :=
  match value with
  | absent => absent
  | one text => one (change text)
  | many texts joined => many (texts.map change) joined

end ParamValue

/-- What stands between texts that are joined. -/
def Machine.joiner (machine : Machine) (joined : Bool) : String :=
  match machine.textOf? "IFS" with
  | none => " "
  | some separators =>
    if joined || !machine.isExtended then String.ofList (separators.toList.take 1) else " "

/-- The marks of a value in a word that is split or not. -/
def ParamValue.marks (value : ParamValue) (machine : Machine) (splits quoted : Bool) : List Mark :=
  match value with
  | .absent => foundMarks "" quoted
  | .one text => foundMarks text quoted
  | .many texts joined =>
    if !splits || (quoted && joined) then
      foundMarks ((machine.joiner joined).intercalate texts) quoted
    else if quoted then apartMarks texts
    else .region :: ((texts.map fun text => text.toList.map Mark.found).intersperse
      [.found '\x00']).flatten

/-- The name of a parameter in messages, with its index. -/
def Machine.shownName (machine : Machine) (name : String) (key : Option String) : String :=
  let index := key.elim "" fun key => "[" ++ key ++ "]"
  if machine.isExtended && !isVariableName name then "$" ++ name else name ++ index

/-- Fails because a parameter is not set. -/
def refuseUnset {α : Type} (name : String) (key : Option String) : Act α := do
  let machine ← get
  match machine.dialect with
  | .common => abandon 2 (name ++ ": parameter not set")
  | .extended =>
    complain (machine.shownName name key ++ ": unbound variable")
    setStatus machine.endingStatus
    throw .leave

/-- Fails because a parameter is not used in a way that there is. -/
def refuseUse {α : Type} (text : String) : Act α := do
  match (← get).dialect with
  | .common => abandon 2 "Bad substitution"
  | .extended => abandon 1 (text ++ ": bad substitution")

/-- The number of a place in the value of a parameter, or of a length. -/
def measureNumber (name text : String) : Act Int := do
  match ← calculate (some name) text with
  | some n => return n
  | none =>
    setStatus 1
    throw .fault

/-- The value of a parameter, or of some of its list. -/
def paramValue (name : String) (index : Option String) : Act ParamValue := do
  let machine ← get
  let (name, index) := machine.meant name index
  let content := (machine.bindings.get name).content
  match name, index, machine.movingTexts? name with
  | "@", _, _ => return .many machine.arguments false
  | "*", _, _ => return .many machine.arguments true
  | _, none, _ => return (machine.parameter? name).elim .absent .one
  | _, some mark, some texts =>
    if meansAll mark then return .many texts (mark = "*")
    else
      let n ← indexNumber mark
      let n := if n < 0 then n + texts.length else n
      return if n < 0 then .absent else (texts[n.toNat]?).elim .absent .one
  | _, some mark, none =>
    if meansAll mark then
      match content with
      | some content => return .many content.texts (mark = "*")
      | none => return .many (machine.parameter? name).toList (mark = "*")
    else
      match content with
      | some (.keyed texts) => return (texts.lookup mark).elim .absent .one
      | some content =>
        let n ← indexNumber mark
        let isBad := n < 0 && (content.nextNumber : Int) + n < 0
        if isBad then complain (name ++ ": bad array subscript")
        return (content.at? n).elim .absent .one
      | none =>
        let n ← indexNumber mark
        match machine.parameter? name with
        | some text => return if n = 0 then .one text else .absent
        | none => return .absent

/-- The keys of a parameter. -/
def paramKeys (name : String) : Act (List String) := do
  let machine ← get
  let (name, _) := machine.meant name none
  match machine.movingTexts? name, (machine.bindings.get name).content with
  | some texts, _ => return (List.range texts.length).map fun n => toString n
  | none, some content => return content.keys
  | none, none => return if (machine.parameter? name).isSome then ["0"] else []

/-- The value of the parameter that another one names. A reference gives the name that it holds. -/
def namedValue (name : String) (key : Option String) : Act ParamValue := do
  let reference := (← get).bindings.get name
  match reference.refers, reference.content.bind Content.text? with
  | true, some other => return .one other
  | _, _ =>
    match ← paramValue name key with
    | .one other =>
      let (target, targetKey) := splitKey other
      if other = "@" || other = "*" || isVariableName target || other.all Char.isDigit then
        paramValue target targetKey
      else abandon 1 (other ++ ": invalid variable name")
    | .absent => abandon 1 (name ++ ": invalid indirect expansion")
    | value => return value

/-- The number of characters of a text. -/
def Machine.lengthOf (machine : Machine) (text : String) : Nat := (machine.units text).length

/-- A text without the front that a pattern stands for. -/
def withoutFront (machine : Machine) (pattern : List PatternPart) (longest : Bool) (text : String) :
    String :=
  let units := machine.units text
  let lengths := matchingStarts pattern units
  let n := ((if longest then lengths.getLast? else lengths.head?)).getD 0
  machine.fromUnits (units.drop n)

/-- A text without the back that a pattern stands for. -/
def withoutBack (machine : Machine) (pattern : List PatternPart) (longest : Bool) (text : String) :
    String :=
  let units := machine.units text
  let lengths := matchingEnds pattern units
  let n := ((if longest then lengths.head? else lengths.getLast?)).getD units.length
  machine.fromUnits (units.take n)

/-- What replaces a match: unquoted ampersands stand for it. -/
def replacementFor (machine : Machine) (replacement : List Mark) (found : List Char) : List Char :=
  let marked := machine.markedUnits (markedText replacement)
  if machine.settings.contains "patsub_replacement" then
    marked.flatMap fun (c, quoted) => if c == '&' && !quoted then found else [c]
  else marked.map (·.1)

/-- A text with the matches of a pattern replaced. -/
def replaceMatches (fuel : Nat) (machine : Machine) (pattern : List PatternPart)
    (replacement : List Mark) (all : Bool) (s : List Char) : List Char :=
  match fuel with
  | 0 => s
  | fuel + 1 =>
    match (matchingStarts pattern s).getLast?, s with
    | some (n + 1), s =>
      let rest := s.drop (n + 1)
      replacementFor machine replacement (s.take (n + 1)) ++
        (if all then replaceMatches fuel machine pattern replacement all rest else rest)
    | _, c :: rest => c :: replaceMatches fuel machine pattern replacement all rest
    | _, [] => []

/-- A text with what a pattern stands for replaced. -/
def replacedIn (machine : Machine) (how : Replacing) (pattern : List PatternPart)
    (replacement : List Mark) (text : String) : String :=
  let units := machine.units text
  if pattern.isEmpty && (how = .first || how = .all) then text
  else
    match how with
    | .first | .all =>
      machine.fromUnits
        (replaceMatches (units.length + 1) machine pattern replacement (how = .all) units)
    | .front =>
      match (matchingStarts pattern units).getLast? with
      | some n =>
        machine.fromUnits (replacementFor machine replacement (units.take n) ++ units.drop n)
      | none => text
    | .back =>
      match (matchingEnds pattern units).head? with
      | some n =>
        machine.fromUnits (units.take n ++ replacementFor machine replacement (units.drop n))
      | none => text

/-- A text with the case of its letters changed, where a pattern stands for them. -/
def recased (machine : Machine) (how : Recasing) (pattern : List PatternPart) (text : String) :
    String :=
  let isMeant (c : Char) : Bool := pattern.isEmpty || matchesPattern pattern [c]
  let swap (c : Char) : Char := if c.isUpper then c.toLower else c.toUpper
  let (change, all) : (Char → Char) × Bool :=
    match how with
    | .firstUp => (Char.toUpper, false)
    | .allUp => (Char.toUpper, true)
    | .firstDown => (Char.toLower, false)
    | .allDown => (Char.toLower, true)
    | .firstSwap => (swap, false)
    | .allSwap => (swap, true)
  let one (c : Char) : Char := if isMeant c then change c else c
  match machine.units text with
  | [] => text
  | c :: rest => machine.fromUnits (one c :: if all then rest.map one else rest)

/-- A text as a letter transforms it. -/
def transformed (machine : Machine) (letter : Char) (text : String) : String :=
  match letter with
  | 'U' => recased machine .allUp [] text
  | 'u' => recased machine .firstUp [] text
  | 'L' => recased machine .allDown [] text
  | 'E' => String.ofList (escapedOctets 0 text.toList)
  | 'Q' | 'K' | 'k' => reusable text
  | _ => text

/-- A list as its keys and texts in turn. -/
def pairTexts (content : Content) : List String :=
  ((content.keys.zip content.texts).map fun (key, text) => [key, text]).flatten

/-- What a letter makes of a variable as a whole; nothing if it changes texts one by one. -/
def Machine.transformedWhole? (machine : Machine) (name : String) (key : Option String)
    (letter : Char) : Option ParamValue :=
  let (name, key) := machine.meant name key
  let entry := machine.bindings.get name
  let all := key.any meansAll
  let letters := attributeLetters entry
  match letter, entry.content with
  | 'a', content =>
    let count := if all then (content.elim 0 fun content => content.texts.length) else 1
    let isAbsent := letters = "" && content.isNone
    some (if isAbsent then .absent else .many (List.replicate count letters) false)
  | 'A', none =>
    some (if letters = "" then .absent else .one ("declare -" ++ letters ++ " " ++ name))
  | 'A', some content =>
    let front := if letters = "" then "" else "declare -" ++ letters ++ " "
    let value :=
      match content, all with
      | .single text, _ => reusable text
      | content, true => listText content
      | content, false => reusable (content.text?.getD "")
    some (.one (front ++ name ++ "=" ++ value))
  | 'K', some (.single _) => none
  | 'K', some content =>
    if all then
      let part (key text : String) : String :=
        (if hasMark none key.toList then doubleQuoted key else key) ++ " " ++ doubleQuoted text
      let parts := (content.keys.zip content.texts).map fun (key, text) => part key text
      let isKeyed := match content with | .keyed _ => true | _ => false
      some (.one (" ".intercalate parts ++ if isKeyed then " " else ""))
    else none
  | 'k', some (.single _) => none
  | 'k', some content => if all then some (.many (pairTexts content) false) else none
  | _, _ => none

/-- The part of a list from a place on, so many items long; negative numbers count from the end. -/
def sliceOf {α : Type} (items : List α) (start : Int) (count : Option Int) : Option (List α) :=
  let size : Int := items.length
  let first := if start < 0 then size + start else start
  if first < 0 then some []
  else
    let rest := items.drop first.toNat
    match count with
    | none => some rest
    | some n =>
      if n < 0 then
        let last := size + n
        if last < first then none else some (rest.take (last - first).toNat)
      else some (rest.take n.toNat)

/-- Removes line ends from the end of a text, and octets that no text has. -/
def substitutedText (text : String) : String :=
  let kept := text.toList.filter (· != '\x00')
  String.ofList ((kept.reverse.dropWhile (· == '\n')).reverse)

/-- Gives a parameter a value because it has none. -/
def assignMissing (name : String) (index : Option String) (text : String) : Act Unit := do
  let machine ← get
  if !isVariableName name then
    match machine.dialect with
    | .common => abandon 2 (name ++ ": bad variable name")
    | .extended => abandon 1 ("$" ++ name ++ ": cannot assign in this way")
  else
    match machine.meant name index with
    | (name, none) => assignText name text
    | (name, some key) =>
      match (machine.bindings.get name).content with
      | some (.keyed _) => assignAt name key text
      | _ => assignAt name (decimalText (← indexNumber key)) text

/-- Fails because a part of a text would end before it starts. -/
def refuseSlice {α : Type} (count : Int) : Act α := do
  abandon 1 (decimalText count ++ ": substring expression < 0")

/-- A value with its text changed: of several texts each one, or in the common language all of them
joined. -/
def changedValue (machine : Machine) (value : ParamValue) (change : String → String) : ParamValue :=
  match machine.dialect, value with
  | .common, .many texts joined => .one (change ((machine.joiner joined).intercalate texts))
  | _, value => value.map change

/-- Whether a substitution only asks for the text of a file; gives its redirection. -/
def onlyReads? : List Command → Option Word
  | [.simple _ [] [] [.mk 0 none .input target _]] => some target.word
  | _ => none

/-- Does something one level deeper. -/
def deeper (act : Act Unit) : Act Unit := do
  modify fun machine => { machine with depth := machine.depth + 1 }
  act

mutual

/-- The marks of a segment in a word that is split or not. -/
def expandSegment (fuel : Nat) (run : List Command → Act Unit) (splits : Bool) (segment : Segment) :
    Act (List Mark) :=
  match fuel with
  | 0 => throw .exhausted
  | fuel + 1 => do
    match segment with
    | .text chars quoted => return literalMarks chars quoted
    | .command body quoted =>
      let machine ← get
      match machine.isExtended, onlyReads? body with
      | true, some target =>
        let path := plainText (← expandWord fuel run false target)
        match ← openFor path .read with
        | .ok stream =>
          connect captureDescriptor stream
          let text := (← readAll captureDescriptor).toOption.getD ""
          connect captureDescriptor none
          modify fun machine => { machine with substituted := some 0 }
          return foundMarks (substitutedText text) quoted
        | .error message =>
          complain message
          modify fun machine => { machine with substituted := some 1 }
          return foundMarks "" quoted
      | _, _ =>
        let text ← captured (deeper (run body))
        if machine.isExtended && text.toList.contains '\x00' then
          complain "warning: command substitution: ignored null byte in input"
        return foundMarks (substitutedText text) quoted
    | .arithmetic expression quoted =>
      let text := plainText (← expandWord fuel run false expression)
      match ← calculate none text with
      | some n => return foundMarks (decimalText n) quoted
      | none =>
        setStatus 1
        throw .fault
    | .stream writes body => return literalMarks (← passed writes (deeper (run body))) true
    | .param name index use arguments quoted =>
      expandParam fuel run splits name index use arguments quoted
termination_by structural fuel

/-- The marks of a parameter. -/
def expandParam (fuel : Nat) (run : List Command → Act Unit) (splits : Bool) (name : String)
    (index : Option Word) (use : ParamUse) (arguments : List Word) (quoted : Bool) :
    Act (List Mark) :=
  match fuel with
  | 0 => throw .exhausted
  | fuel + 1 => do
    let key ←
      match index with
      | none => pure none
      | some word => pure (some (plainText (← expandWord fuel run false word)))
    match use with
    | .unknown text => refuseUse text
    | .namesLike =>
      let names := ((← get).bindings.filterMap fun entry =>
        if entry.1.startsWith name && entry.2.content.isSome then some entry.1 else none).mergeSort
      return (ParamValue.many names false).marks (← get) splits quoted
    | .indices =>
      return (ParamValue.many (← paramKeys name) (key = some "*")).marks (← get) splits quoted
    | .indirect => return (← namedValue name key).marks (← get) splits quoted
    | _ =>
      let value ← paramValue name key
      expandUse fuel run splits name key use (arguments.headD []) (arguments.drop 1) quoted value
termination_by structural fuel

/-- The marks of a parameter with a value in some use. -/
def expandUse (fuel : Nat) (run : List Command → Act Unit) (splits : Bool) (name : String)
    (key : Option String) (use : ParamUse) (argument : Word) (more : List Word) (quoted : Bool)
    (value : ParamValue) : Act (List Mark) :=
  match fuel with
  | 0 => throw .exhausted
  | fuel + 1 => do
    let machine ← get
    let extended := machine.isExtended
    let found (value : ParamValue) : List Mark := value.marks machine splits quoted
    let argumentMarks : Act (List Mark) := do
      let word := if quoted then argument else withTildes machine false argument
      let marks ← expandWord fuel run splits word
      return if quoted then
        (if marks.any fun mark => mark = .cut then [] else [.present]) ++ marks
      else splittingMarks marks
    let argumentText : Act String := do
      return plainText (← expandWord fuel run false (withTildes machine false argument))
    let argumentPattern (style : PatternStyle) : Act (List PatternPart) := do
      let marks ← expandWord fuel run false (withTildes machine false argument)
      return machine.pattern style (markedText marks)
    let plain := machine.patternStyle
    let checked : Act Unit := do
      if machine.has 'u' && value = .absent then refuseUnset name key
    match use with
    | .plain =>
      checked
      return found value
    | .length =>
      checked
      match value with
      | .many texts joined =>
        let n :=
          if extended then texts.length else ((machine.joiner joined).intercalate texts).length
        return foundMarks (toString n) quoted
      | value =>
        return foundMarks (toString (machine.lengthOf (String.join value.texts))) quoted
    | .orElse emptyToo =>
      if value.isThere emptyToo extended then return found value else argumentMarks
    | .instead emptyToo =>
      if value.isThere emptyToo extended then argumentMarks
      else return if quoted && name != "@" && key != some "@" then [.present] else []
    | .assign emptyToo =>
      if value.isThere emptyToo extended then return found value
      else
        let text ← argumentText
        assignMissing name key text
        return foundMarks text quoted
    | .orFail emptyToo =>
      if value.isThere emptyToo extended then return found value
      else
        let isBare := argument.isEmpty
        let text ← argumentText
        let missing :=
          match machine.dialect with
          | .common => "parameter not set" ++ (if emptyToo then " or null" else "")
          | .extended => if emptyToo then "parameter null or not set" else "parameter not set"
        match machine.dialect with
        | .common => abandon 2 (name ++ ": " ++ if isBare then missing else text)
        | .extended =>
          complain (machine.shownName name key ++ ": " ++ if isBare then missing else text)
          setStatus machine.endingStatus
          throw .leave
    | .dropFront longest =>
      checked
      let pattern ← argumentPattern plain
      return found (changedValue machine value (withoutFront machine pattern longest))
    | .dropBack longest =>
      checked
      let pattern ← argumentPattern plain
      return found (changedValue machine value (withoutBack machine pattern longest))
    | .replace how =>
      checked
      let pattern ← argumentPattern machine.comparingStyle
      let replacement ← expandWord fuel run false (withTildes machine false (more.headD []))
      return found (value.map (replacedIn machine how pattern replacement))
    | .recase how =>
      checked
      let pattern ← argumentPattern plain
      return found (value.map (recased machine how pattern))
    | .transform letter =>
      checked
      match machine.transformedWhole? name key letter with
      | some value => return found value
      | none => return found (value.map (transformed machine letter))
    | .slice =>
      checked
      let place := name ++ key.elim "" fun key => "[" ++ key ++ "]"
      let number (word : Word) : Act Int := do
        measureNumber place (plainText (← expandWord fuel run false word))
      let start ← number argument
      let count ←
        match more with
        | word :: _ => pure (some (← number word))
        | [] => pure none
      match value with
      | .absent => return found .absent
      | .one text =>
        match sliceOf (machine.units text) start count with
        | some units => return found (.one (machine.fromUnits units))
        | none => refuseSlice (count.getD 0)
      | .many texts joined =>
        let texts := if name = "@" || name = "*" then machine.name :: texts else texts
        match sliceOf texts start count with
        | some texts => return found (.many texts joined)
        | none => refuseSlice (count.getD 0)
    | _ => return found value
termination_by structural fuel

/-- The marks of a word. -/
def expandWord (fuel : Nat) (run : List Command → Act Unit) (splits : Bool) (word : Word) :
    Act (List Mark) :=
  match fuel with
  | 0 => throw .exhausted
  | fuel + 1 => do
    match word with
    | [] => return []
    | segment :: rest =>
      let marks ← expandSegment fuel run splits segment
      return marks ++ (← expandWord fuel run splits rest)
termination_by structural fuel

end

/-- The text of a word that is not split. -/
def expandText (fuel : Nat) (run : List Command → Act Unit) (word : Word) : Act String := do
  return plainText (← expandWord fuel run false (withTildes (← get) false word))

/-- The text of a word that is the value of an assignment. -/
def expandValue (fuel : Nat) (run : List Command → Act Unit) (word : Word) : Act String := do
  return plainText (← expandWord fuel run false (withTildes (← get) true word))

/-- The pattern that a word spells. -/
def expandPattern (fuel : Nat) (run : List Command → Act Unit) (word : Word) :
    Act (List PatternPart) := do
  let marks ← expandWord fuel run false (withTildes (← get) false word)
  let machine ← get
  return machine.pattern machine.comparingStyle (markedText marks)

/-- The fields of one word. -/
def expandOne (fuel : Nat) (run : List Command → Act Unit) (word : Word) : Act (List String) := do
  let marks ← expandWord fuel run true (withTildes (← get) false word)
  match fieldTexts (← get) (← theDisk) marks with
  | .ok texts => return texts
  | .error pattern => abandon 1 ("no match: " ++ pattern)

/-- The words that a word stands for before it is expanded. -/
def Machine.spread (machine : Machine) (word : Word) : List Word :=
  if machine.isExtended && machine.has 'B' then bracedWords word else [word]

/-- The fields of words. -/
def expandFields (fuel : Nat) (run : List Command → Act Unit) (words : List Word) :
    Act (List String) := do
  let spread := words.flatMap (← get).spread
  return (← spread.mapM (expandOne fuel run)).flatten

/-- The commands whose operands may be assignments. -/
def Machine.takesAssignments (machine : Machine) (name : String) : Bool :=
  match machine.dialect with
  | .common => ["export", "readonly", "local", "alias"].contains name
  | .extended => declaringNames.contains name

/-- Whether the command that some fields are the start of takes assignments. -/
def Machine.assigns (machine : Machine) : List String → Bool
  | [] => false
  | "command" :: rest | "builtin" :: rest => machine.assigns rest
  | name :: rest =>
    if name.front == '-' then machine.assigns rest else machine.takesAssignments name

/-- The fields of the words of a command, behind those that there are. -/
def expandArguments (fuel : Nat) (run : List Command → Act Unit) (found : List String) :
    List Word → Act (List String)
  | [] => return found
  | word :: words => do
    let machine ← get
    let fields ←
      match if machine.assigns found then assignment? .common word else none with
      | some (name, _, value) =>
        let text ← expandValue fuel run value
        pure [name ++ "=" ++ text]
      | none =>
        match machine.dialect, assignment? .common word with
        | .extended, some (name, _, value) =>
          let word := withText (name ++ "=").toList false (withTildes machine true value)
          pure (← (machine.spread word).mapM (expandOne fuel run)).flatten
        | _, _ => pure (← (machine.spread word).mapM (expandOne fuel run)).flatten
    expandArguments fuel run (found ++ fields) words

/-- The name behind the commands that only pass one on. -/
def calledName : List String → Option String
  | "command" :: rest => calledName rest
  | name :: _ => some name
  | [] => none

/-- The text of the prompt that stands in front of a traced command. In the extended language its
first character tells how deep the command stands. -/
def tracePrompt (fuel : Nat) (run : List Command → Act Unit) : Act String := do
  let machine ← get
  let text := (machine.textOf? "PS4").getD (if machine.isExtended then "" else "+ ")
  let source : Source :=
    ⟨text.toList, 1, machine.dialect, [], [], none, [], machine.hereTexts, none⟩
  match readSegments (readingFuel text.toList) (.hereText 1) source with
  | .ok (word, _) =>
    let prompt := plainText (← expandWord fuel run false word)
    match machine.dialect, prompt.toList with
    | .extended, c :: _ => return String.ofList (List.replicate (machine.depth - 1) c) ++ prompt
    | _, _ => return prompt
  | .error _ => return text

end Runbook.Shell
