import Runbook.Shell.Reader.Spelling

/-!
# Reading scripts

Every reader takes one piece of the grammar. Scripts are read one line with its complete commands
at a time, so that the lines before a fault can still be run.
-/

namespace Runbook.Shell

/-- The names of the commands that no function may be named like. -/
def specialNames : List String :=
  ["break", "continue", ":", ".", "eval", "exec", "exit", "export", "readonly", "return", "set",
   "shift", "times", "trap", "unset", "local"]

/-- The commands whose operands may be given lists as their values. -/
def declaringNames : List String := ["declare", "typeset", "local", "export", "readonly"]

/-- What the mark of a redirection does, and the descriptor that it is about where none is given. -/
def redirectMeaning (mark : String) : RedirectKind × Nat :=
  match mark with
  | "<" => (.input, 0)
  | ">" => (.output, 1)
  | ">>" => (.append, 1)
  | ">|" => (.overwrite, 1)
  | "<>" => (.both, 0)
  | "<&" => (.copyInput, 0)
  | ">&" => (.copyOutput, 1)
  | "<<<" => (.hereWord, 0)
  | "&>" => (.outputAndErrors false, 1)
  | "&>>" => (.outputAndErrors true, 1)
  | _ => (.hereText, 0)

/-- Names a here text that is still to be read; gives its number. -/
def awaitText (word : Word) (stripTabs : Bool) : Reading Nat := do
  let (mark, quoted) := literalText word
  let number := (← get).hereTexts.size
  modify fun source =>
    { source with
      hereTexts := source.hereTexts.push (.mk "" [])
      pending := source.pending ++ [⟨number, mark, quoted, stripTabs⟩] }
  return number

/-- The name and the value of a word that assigns, and whether it adds to the old value: its first
segment is text with a name in front of an equals sign. -/
def assignment? (dialect : Dialect) : Word → Option (String × Bool × Word)
  | .text chars false :: rest =>
    let name := chars.toList.takeWhile isNameChar
    let value (behind : List Char) : Word :=
      if behind.isEmpty then rest else .text (String.ofList behind) false :: rest
    if isName name then
      match dialect, chars.toList.drop name.length with
      | _, '=' :: behind => some (String.ofList name, false, value behind)
      | .extended, '+' :: '=' :: behind => some (String.ofList name, true, value behind)
      | _, _ => none
    else none
  | _ => none

/-- A command with redirections, if there are any. -/
def Command.redirect (command : Command) (line : Nat) (redirects : List Redirect) : Command :=
  if redirects.isEmpty then command
  else
    match command with
    | .subshell line body _ => .subshell line body redirects
    | other => .redirected line other redirects

/-- The redirection of errors to where the output goes. -/
def errorsToOutput : Redirect :=
  .mk 2 none .copyOutput (.mk "1" [.text "1" false]) 0

/-- The words that are conditions about the word behind them. -/
def isConditionMark (text : String) : Bool :=
  match text.toList with
  | ['-', c] => "abcdefghknoprstuvwxzGLNORS".toList.contains c
  | _ => false

/-- The words that are conditions about the words around them. -/
def pairMarks : List String :=
  ["=", "==", "!=", "=~", "-eq", "-ne", "-lt", "-le", "-gt", "-ge", "-nt", "-ot", "-ef"]

/-- Whether an index stands for all values of a list. -/
def isAllIndices (word : Word) : Bool :=
  match plainWord? word with
  | some text => text = "@" || text = "*"
  | none => false

/-- Whether a quoted segment may stand for no text at all, not even an empty one. -/
def Segment.mayVanish (dialect : Dialect) : Segment → Bool
  | .param "@" none .plain [] true => true
  | .param name index use _ true =>
    dialect = .extended && use != .length &&
      (name = "@" || use = .namesLike || (index.bind plainWord?) = some "@")
  | _ => false

/-- Takes the mark that asks for the parameter that another one names. -/
def readIndirection : Reading Bool := do
  match ← ahead with
  | '!' :: '#' :: '\x7d' :: _ =>
    skip 1
    return true
  | '!' :: c :: _ =>
    if isNameChar c then
      skip 1
      return true
    else return false
  | _ => return false

/-- The index and the value of a list element that starts behind an opening bracket. -/
def splitIndex? : Word → Option (Word × Word)
  | [] => none
  | .text chars false :: rest =>
    let front := chars.toList.takeWhile (· != ']')
    match chars.toList.drop front.length with
    | ']' :: '=' :: behind =>
      some ([.text (String.ofList front) false],
        if behind.isEmpty then rest else .text (String.ofList behind) false :: rest)
    | _ => (splitIndex? rest).map fun (index, value) => (.text chars false :: index, value)
  | segment :: rest => (splitIndex? rest).map fun (index, value) => (segment :: index, value)

/-- The element of a list that a word spells: a value with an index or without. -/
def elementOf (word : Word) : Option Word × Word :=
  match word with
  | .text chars false :: rest =>
    match chars.toList with
    | '[' :: more =>
      match splitIndex? (.text (String.ofList more) false :: rest) with
      | some (index, value) => (some index, value)
      | none => (none, word)
    | _ => (none, word)
  | _ => (none, word)

/-- A simple command, or one that declares lists. -/
def simpleCommand (line : Nat) (assignments : List Assignment) (words : List Wording)
    (lists : List Assignment) (redirects : List Redirect) : Command :=
  if lists.isEmpty then .simple line assignments words redirects
  else .declare line words lists redirects

/-- Takes the marks that open a loop that counts. -/
def acceptCount (fuel : Nat) : Reading Bool := do
  skipBlanks fuel
  acceptAll ['(', '(']

/-- A text without what separates words at its ends. -/
def trimmedText (s : List Char) : String :=
  let isGap (c : Char) : Bool := c == ' ' || c == '\t' || c == '\n'
  String.ofList ((s.dropWhile isGap).reverse.dropWhile isGap).reverse

mutual

/-- Reads the segments at a place up to its end. -/
def readSegments (fuel : Nat) (place : Place) : Reading Word :=
  match fuel with
  | 0 => fail .missingBrace
  | fuel + 1 => do
    match ← ahead with
    | [] =>
      match place.stop with
      | .blank | .textEnd | .pattern _ => return []
      | .sum _ => failFrom place.start .missingParentheses
      | .quote => failFrom place.start (.unterminatedQuote '\x22')
      | .before _ =>
        if place.quoted then failFrom place.start (.unterminatedQuote '\x22')
        else failFrom place.start .missingBrace
    | ['\\'] =>
      skip 1
      return [.text "\\" true]
    | '\\' :: c :: _ =>
      skip 2
      let kept := if place.keepsBackslash c then ['\\', c] else [c]
      return withText kept true (← readSegments fuel place)
    | '$' :: _ =>
      skip 1
      if place.raw then return withText ['$'] place.quoted (← readSegments fuel place)
      else
        let found ← readDollar fuel place
        return found ++ (← readSegments fuel place)
    | c :: rest =>
      if place.endsAt c then
        if place.stop = .quote then skip 1
        return []
      else if c == '\x60' && !place.raw then
        let line := (← get).line
        match backQuoted? place.quoted rest with
        | none =>
          modify fun source => { source with line := line + rest.count '\n' }
          failFrom line .unterminatedCommand
        | some (body, after) =>
          skip (rest.length + 1 - after.length)
          let behind := (← get).line
          modify fun source => { source with line }
          let commands ← withinText fuel body after
          modify fun source => { source with line := behind }
          return .command commands place.quoted :: (← readSegments fuel place)
      else if c == '\x22' && place.stop != .textEnd then
        if place.inSum && (← get).dialect = .common then
          skip 1
          return withText ['\x22'] true (← readSegments fuel place)
        else
          let line := (← get).line
          skip 1
          let inner ← readSegments fuel (place.doubled line)
          let more ← readSegments fuel place
          match inner with
          | [segment] =>
            if place.here || place.inSum || segment.mayVanish (← get).dialect then
              return inner ++ more
            else return .text "" true :: inner ++ more
          | _ =>
            if place.here || place.inSum then return inner ++ more
            else return .text "" true :: inner ++ more
      else if c == '\x27' && !place.quoted then
        let body := rest.takeWhile (· != '\x27')
        let line := (← get).line
        skip (body.length + 2)
        if body.length = rest.length then failFrom line (.unterminatedQuote '\x27')
        else return .text (String.ofList body) true :: (← readSegments fuel place)
      else if c == '(' then
        skip 1
        match place.stop with
        | .sum depth =>
          let place := { place with stop := .sum (depth + 1) }
          return withText ['('] true (← readSegments fuel place)
        | .pattern depth =>
          let place := { place with stop := .pattern (depth + 1) }
          return withText ['('] false (← readSegments fuel place)
        | _ => return withText ['('] place.quoted (← readSegments fuel place)
      else if c == ')' then
        skip 1
        match place.stop with
        | .sum 0 =>
          if ← accept ')' then return []
          else return withText [')'] true (← readSegments fuel place)
        | .sum (depth + 1) =>
          let place := { place with stop := .sum depth }
          return withText [')'] true (← readSegments fuel place)
        | .pattern depth =>
          let place := { place with stop := .pattern (depth - 1) }
          return withText [')'] false (← readSegments fuel place)
        | _ => return withText [')'] place.quoted (← readSegments fuel place)
      else
        let run := (c :: rest).takeWhile place.isPlain
        let run := if run.isEmpty then [c] else run
        skip run.length
        return withText run place.quoted (← readSegments fuel place)
termination_by structural fuel

/-- Reads a substitution behind its dollar sign; a dollar sign alone is itself. -/
def readDollar (fuel : Nat) (place : Place) : Reading Word :=
  match fuel with
  | 0 => fail .missingBrace
  | fuel + 1 => do
    let line := (← get).line
    let extended := (← get).dialect = .extended
    match ← ahead with
    | '(' :: _ =>
      skip 1
      let before ← get
      if ← accept '(' then
        if extended then
          try return [.arithmetic (← readSegments fuel (place.sum line)) place.quoted]
          catch error =>
            set before
            try return [.command (← readInner fuel) place.quoted]
            catch _ => throw error
        else return [.arithmetic (← readSegments fuel (place.sum line)) place.quoted]
      else return [.command (← readInner fuel) place.quoted]
    | '\x7b' :: _ =>
      skip 1
      return [← readBraced fuel place]
    | '\x27' :: rest =>
      if extended && !place.quoted then
        let (body, after) := quotedAhead rest
        skip (rest.length + 1 - after.length)
        return [.text (String.ofList (escapedOctets 0 body)) true]
      else return [.text "$" place.quoted]
    | '\x22' :: _ =>
      if extended && !place.quoted then return [] else return [.text "$" place.quoted]
    | c :: _ =>
      if startsName c then
        let name ← takeChars fuel isNameChar
        return [.param (String.ofList name) none .plain [] place.quoted]
      else if isSpecialParam c then
        skip 1
        return [.param (String.ofList [c]) none .plain [] place.quoted]
      else return [.text "$" place.quoted]
    | [] => return [.text "$" place.quoted]
termination_by structural fuel

/-- Reads the rest of a parameter in braces. -/
def readBraced (fuel : Nat) (place : Place) : Reading Segment :=
  match fuel with
  | 0 => fail .missingBrace
  | fuel + 1 => do
    let source ← get
    let quoted := place.quoted
    let closing := place.argument ['\x7d'] quoted source.line
    let bare := { closing with quoted := false }
    let extended := source.dialect = .extended
    let indirect ← if extended then readIndirection else pure false
    match ← readParamName fuel with
    | none => readUnknown fuel source closing
    | some (name, isLength) =>
      let index ←
        if extended && startsName name.front then
          if ← accept '[' then
            let word ← readSegments fuel (place.argument [']'] false source.line)
            let _ ← accept ']'
            pure (some word)
          else pure none
        else pure none
      let done (use : ParamUse) (arguments : List Word) : Reading Segment :=
        return .param name index use arguments quoted
      if isLength then
        if ← accept '\x7d' then done .length [] else readUnknown fuel source closing
      else if indirect then
        if ← accept '\x7d' then done (if index.any isAllIndices then .indices else .indirect) []
        else if ["*\x7d", "@\x7d"].contains (String.ofList ((← ahead).take 2)) then
          skip 2
          done .namesLike []
        else readUnknown fuel source closing
      else if ← accept '\x7d' then done .plain []
      else
        match ← readCommonUse with
        | some use =>
          let isCut : Bool :=
            match use with
            | .dropFront _ | .dropBack _ => true
            | _ => false
          let argument ← readSegments fuel (if isCut then bare else closing)
          skip 1
          done use [argument]
        | none =>
          if !extended then readUnknown fuel source closing
          else if ← accept ':' then
            let line := source.line
            let first ← readSegments fuel (place.argument [':', '\x7d'] true line)
            let second ←
              if ← accept ':' then
                pure [← readSegments fuel (place.argument ['\x7d'] true line)]
              else pure []
            skip 1
            done .slice (first :: second)
          else if ← accept '/' then
            let how : Replacing ←
              if ← accept '/' then pure .all
              else if ← accept '#' then pure .front
              else if ← accept '%' then pure .back
              else pure .first
            let pattern ← readSegments fuel { bare with stop := .before ['/', '\x7d'] }
            let text ← if ← accept '/' then readSegments fuel bare else pure []
            skip 1
            done (.replace how) [pattern, text]
          else
            match ← readRecasing with
            | some how =>
              let argument ← readSegments fuel bare
              skip 1
              done (.recase how) [argument]
            | none =>
              if ← accept '@' then
                match ← ahead with
                | letter :: '\x7d' :: _ =>
                  skip 2
                  done (.transform letter) []
                | _ => readUnknown fuel source closing
              else readUnknown fuel source closing
termination_by structural fuel

/-- Reads a use of a parameter that is not known, up to its brace. -/
def readUnknown (fuel : Nat) (source : Source) (closing : Place) : Reading Segment :=
  match fuel with
  | 0 => fail .missingBrace
  | fuel + 1 => do
    if (← ahead).head? != some '\x7d' then skip 1
    let _ ← readSegments fuel closing
    skip 1
    let used := source.rest.length - (← get).rest.length
    let text := String.ofList ("$\x7b".toList ++ source.rest.take used)
    return .param "" none (.unknown text) [] closing.quoted
termination_by structural fuel

/-- Reads the commands of a text that stands in back quotes. -/
def withinText (fuel : Nat) (text after : List Char) : Reading (List Command) :=
  match fuel with
  | 0 => fail .unterminatedCommand
  | fuel + 1 => do
    let before ← get
    set { before with
      rest := text, pending := [], pushed := none, openAliases := [], aliasesUpTo := none }
    let commands ← readList fuel false true
    match ← nextToken fuel false true false with
    | .ended => pure ()
    | token => unexpected token none
    modify fun inner => { before with hereTexts := inner.hereTexts, rest := after }
    return commands
termination_by structural fuel

/-- Reads the commands of a substitution and the parenthesis behind them. -/
def readInner (fuel : Nat) : Reading (List Command) :=
  match fuel with
  | 0 => fail .unterminatedCommand
  | fuel + 1 => do
    let outer := (← get).pending
    modify fun source => { source with pending := [] }
    let commands ← readList fuel false true
    match ← nextToken fuel false true false with
    | .mark ")" => pure ()
    | token => unexpected token (some ")")
    readHereTexts fuel
    modify fun source => { source with pending := outer, pushed := none }
    return commands
termination_by structural fuel

/-- Reads the here texts that are due. -/
def readHereTexts (fuel : Nat) : Reading Unit :=
  match fuel with
  | 0 => return ()
  | fuel + 1 => do
    let source ← get
    match source.pending with
    | [] => return ()
    | pending :: others =>
      let (body, rest) := hereLines (source.rest.length + 1) pending false source.rest
      let taken := source.rest.take (source.rest.length - rest.length)
      let word ←
        if pending.quoted then pure [.text (String.ofList body) true]
        else within body (readSegments fuel (.hereText source.line))
      modify fun after =>
        { source with
          rest, pending := others, line := source.line + taken.count '\n'
          hereTexts := after.hereTexts.setIfInBounds pending.number
            (.mk (String.ofList body) word) }
      readHereTexts fuel
termination_by structural fuel

/-- Reads a token from the text. -/
def scanToken (fuel : Nat) (raw : Bool) : Reading Token :=
  match fuel with
  | 0 => return .ended
  | fuel + 1 => do
    skipBlanks fuel
    let source ← get
    let extended := source.dialect = .extended
    match ← ahead with
    | [] => return .ended
    | '\n' :: _ =>
      skip 1
      return .newline
    | c :: rest =>
      let digits := (c :: rest).takeWhile Char.isDigit
      let isDescriptor := !digits.isEmpty && (digits.length = 1 || extended) &&
        ((c :: rest).drop digits.length).head?.any fun d => d == '<' || d == '>'
      if isDescriptor then
        skip digits.length
        match ← acceptAny (redirectMarks source.dialect) with
        | some mark => return .redirect (readNat? 10 digits) none mark
        | none => return .ended
      else if let some (name, length) := if extended then holder? (c :: rest) else none then
        skip length
        match ← acceptAny (redirectMarks source.dialect) with
        | some mark => return .redirect none (some name) mark
        | none => return .ended
      else if extended && (c == '<' || c == '>') && rest.head? = some '(' then
        return .word (← spelled do
          skip 2
          let body ← readInner fuel
          return .stream (c == '>') body :: (← readSegments fuel (.bare source.line)))
      else
        match ← acceptAny (longMarks source.dialect) with
        | some mark => return .mark mark
        | none =>
          match ← acceptAny (redirectMarks source.dialect) with
          | some mark => return .redirect none none mark
          | none =>
            if endsWord c then
              skip 1
              return .mark (String.ofList [c])
            else return .word (← spelled (readSegments fuel { Place.bare source.line with raw }))
termination_by structural fuel

/-- Reads the next token, past line ends or not. Words may be reserved or stand for other text. -/
def nextToken (fuel : Nat) (newlines keywords aliases : Bool) : Reading Token :=
  match fuel with
  | 0 => return .ended
  | fuel + 1 => do
    let source ← get
    modify fun source => { source with pushed := none }
    if source.pushed.isNone then skipBlanks fuel
    let here := (← get).rest.length
    let isBehindAlias := source.pushed.isNone && source.aliasesUpTo.any (here ≤ ·)
    let token ←
      match source.pushed with
      | some token => pure token
      | none =>
        match ← if aliases then readIndexed fuel else pure none with
        | some part => pure (.assigned part)
        | none => scanToken fuel false
    if isBehindAlias then modify fun source => { source with aliasesUpTo := none }
    match token with
    | .newline =>
      if newlines then
        readHereTexts fuel
        nextToken fuel newlines keywords aliases
      else return token
    | .word wording =>
      match plainWord? wording.word with
      | none => return token
      | some text =>
        let left := (← get).rest
        let under := source.openAliases.any fun (name, length) => name = text && length < here
        if keywords && source.dialect.reserves text then return .reserved text
        else if (aliases || isBehindAlias) && !under then
          match source.aliases.lookup text with
          | some value =>
            let endsBlank := value.toList.getLast?.any fun c => c == ' ' || c == '\t'
            modify fun source =>
              { source with
                rest := value.toList ++ left
                openAliases := (text, left.length) :: source.openAliases
                aliasesUpTo := if endsBlank then some left.length else none }
            nextToken fuel newlines keywords aliases
          | none => return token
        else return token
    | _ => return token
termination_by structural fuel

/-- Reads a redirection behind its mark. -/
def readRedirect (fuel : Nat) (descriptor : Option Nat) (holder : Option String) (mark : String) :
    Reading Redirect :=
  match fuel with
  | 0 => unexpected .ended none
  | fuel + 1 => do
    let (kind, standard) := redirectMeaning mark
    let descriptor := descriptor.getD standard
    if kind = .hereText then
      match ← scanToken fuel true with
      | .word wording =>
        return .mk descriptor holder kind wording (← awaitText wording.word (mark = "<<-"))
      | token => unexpected token none
    else
      match ← nextToken fuel false false false with
      | .word wording => return .mk descriptor holder kind wording 0
      | token => unexpected token none
termination_by structural fuel

/-- Reads redirections as long as there are any. -/
def readRedirects (fuel : Nat) : Reading (List Redirect) :=
  match fuel with
  | 0 => return []
  | fuel + 1 => do
    match ← nextToken fuel false true true with
    | .redirect descriptor holder mark =>
      let first ← readRedirect fuel descriptor holder mark
      return first :: (← readRedirects fuel)
    | token =>
      pushBack token
      return []
termination_by structural fuel

/-- Reads the values of a list up to its parenthesis. -/
def readElements (fuel : Nat) : Reading (List Wording) :=
  match fuel with
  | 0 => return []
  | fuel + 1 => do
    match ← nextToken fuel true false false with
    | .mark ")" => return []
    | .word wording => return wording :: (← readElements fuel)
    | token => unexpected token none
termination_by structural fuel

/-- Reads an assignment to a part of a list: a name with an index in front of an equals sign. -/
def readIndexed (fuel : Nat) : Reading (Option Assignment) :=
  match fuel with
  | 0 => return none
  | fuel + 1 => do
    let before ← get
    let name ← takeChars fuel isNameChar
    let opens ← accept '['
    if before.dialect = .common || !isName name || !opens then
      set before
      return none
    else
      try
        let place := Place.bare before.line
        let index ← readSegments fuel (place.argument [']'] false before.line)
        let closed ← accept ']'
        let appends ← accept '+'
        if closed && (← accept '=') then
          let value ← readSegments fuel place
          let text ← spellingSince before
          return some (.value (String.ofList name) (some index) appends value text)
        else
          set before
          return none
      catch _ =>
        set before
        return none
termination_by structural fuel

/-- Reads the rest of a simple command. Assignments stand before its first word. -/
def readSimple (fuel : Nat) (line : Nat) (assignments : List Assignment) (words : List Wording)
    (lists : List Assignment) (redirects : List Redirect) : Reading Command :=
  match fuel with
  | 0 => unexpected .ended none
  | fuel + 1 => do
    let dialect := (← get).dialect
    match ← nextToken fuel false false words.isEmpty with
    | .assigned part => readSimple fuel line (assignments ++ [part]) words lists redirects
    | .redirect descriptor holder mark =>
      let redirect ← readRedirect fuel descriptor holder mark
      readSimple fuel line assignments words lists (redirects ++ [redirect])
    | .word wording =>
      let first? := words.head?.bind fun wording => plainWord? wording.word
      let declares := first?.any declaringNames.contains
      match assignment? dialect wording.word with
      | some (name, appends, value) =>
        let opensList := dialect = .extended && value.isEmpty && (words.isEmpty || declares)
        if opensList && (← get).rest.head? = some '(' then
          skip 1
          let elements ← readElements fuel
          let text := wording.text ++ "(" ++ " ".intercalate (elements.map Wording.text) ++ ")"
          let pairs := elements.map fun element => elementOf element.word
          let list : Assignment := .list name appends pairs text
          if words.isEmpty then
            readSimple fuel line (assignments ++ [list]) words lists redirects
          else
            let words := words ++ [.mk text [.text name false]]
            readSimple fuel line assignments words (lists ++ [list]) redirects
        else if words.isEmpty then
          let assignment : Assignment := .value name none appends value wording.text
          readSimple fuel line (assignments ++ [assignment]) words lists redirects
        else readSimple fuel line assignments (words ++ [wording]) lists redirects
      | none => readSimple fuel line assignments (words ++ [wording]) lists redirects
    | .mark "(" =>
      match words, assignments, redirects with
      | [wording], [], [] =>
        match ← nextToken fuel false false false with
        | .mark ")" => readFunction fuel wording.word
        | token => unexpected token (some ")")
      | _, _, _ =>
        pushBack (.mark "(")
        return simpleCommand line assignments words lists redirects
    | token =>
      pushBack token
      return simpleCommand line assignments words lists redirects
termination_by structural fuel

/-- Reads a function behind its name. -/
def readFunction (fuel : Nat) (word : Word) : Reading Command :=
  match fuel with
  | 0 => unexpected .ended none
  | fuel + 1 => do
    let name := (plainWord? word).getD ""
    let extended := (← get).dialect = .extended
    let isGood := isName name.toList && !specialNames.contains name
    if !isGood && !(extended && name != "") then fail (.badFunctionName (literalText word).1)
    let first ← nextToken fuel true true true
    pushBack first
    return .define (← get).line name (← readCommand fuel)
termination_by structural fuel

/-- Reads a list of commands: those of one line, or all up to a token that ends a list. The list of
one line may be empty, and so may others where that is allowed. -/
def readList (fuel : Nat) (oneLine mayBeEmpty : Bool) : Reading (List Command) :=
  match fuel with
  | 0 => return []
  | fuel + 1 => do
    let before := (← get).rest
    match ← nextToken fuel (!oneLine) true true with
    | .newline =>
      readHereTexts fuel
      return []
    | .ended =>
      readHereTexts fuel
      pushBack .ended
      return []
    | token =>
      pushBack token
      if mayBeEmpty && !oneLine && token.endsList then return []
      else
        let line := (← get).line
        let first ← readAndOr fuel
        match ← nextToken fuel false true true with
        | .mark "&" =>
          let text := before.take (before.length - (← get).rest.length - 1)
          return .background line (trimmedText text) first :: (← readList fuel oneLine true)
        | .mark ";" => return first :: (← readList fuel oneLine true)
        | .newline =>
          pushBack .newline
          return first :: (← readList fuel oneLine true)
        | .ended =>
          readHereTexts fuel
          pushBack .ended
          return [first]
        | token =>
          if oneLine then unexpected token none
          else
            pushBack token
            return [first]
termination_by structural fuel

/-- Reads pipelines joined by the marks for "and" and "or". -/
def readAndOr (fuel : Nat) : Reading Command :=
  match fuel with
  | 0 => unexpected .ended none
  | fuel + 1 => do
    let first ← readPipeline fuel
    readJoined fuel first
termination_by structural fuel

/-- Reads what is joined to a command. -/
def readJoined (fuel : Nat) (first : Command) : Reading Command :=
  match fuel with
  | 0 => unexpected .ended none
  | fuel + 1 => do
    match ← nextToken fuel false true true with
    | .mark "&&" =>
      peekPastLines fuel
      readJoined fuel (.both first (← readPipeline fuel))
    | .mark "||" =>
      peekPastLines fuel
      readJoined fuel (.either first (← readPipeline fuel))
    | token =>
      pushBack token
      return first
termination_by structural fuel

/-- Goes on at the next token that is no line end. -/
def peekPastLines (fuel : Nat) : Reading Unit :=
  match fuel with
  | 0 => return ()
  | fuel + 1 => do
    let token ← nextToken fuel true true true
    pushBack token
termination_by structural fuel

/-- Reads a pipeline. -/
def readPipeline (fuel : Nat) : Reading Command :=
  match fuel with
  | 0 => unexpected .ended none
  | fuel + 1 => do
    match ← nextToken fuel false true true with
    | .reserved "!" =>
      if (← get).dialect = .extended then return .negate (← readPipeline fuel)
      else return .negate (← readPiped fuel)
    | .reserved "time" => readPipeline fuel
    | token =>
      pushBack token
      readPiped fuel
termination_by structural fuel

/-- Reads the commands of a pipeline. -/
def readPiped (fuel : Nat) : Reading Command :=
  match fuel with
  | 0 => unexpected .ended none
  | fuel + 1 => do
    match ← readParts fuel with
    | [only] => return only
    | parts => return .pipeline parts
termination_by structural fuel

/-- Reads commands with the marks of a pipeline between them. -/
def readParts (fuel : Nat) : Reading (List Command) :=
  match fuel with
  | 0 => return []
  | fuel + 1 => do
    let line := (← get).line
    let first ← readCommand fuel
    match ← nextToken fuel false true true with
    | .mark "|" =>
      peekPastLines fuel
      return first :: (← readParts fuel)
    | .mark "|&" =>
      peekPastLines fuel
      return .redirected line first [errorsToOutput] :: (← readParts fuel)
    | token =>
      pushBack token
      return [first]
termination_by structural fuel

/-- Reads a command with its redirections. -/
def readCommand (fuel : Nat) : Reading Command :=
  match fuel with
  | 0 => unexpected .ended none
  | fuel + 1 => do
    let token ← nextToken fuel false true true
    let line := (← get).line
    match token with
    | .word _ | .assigned _ | .redirect _ _ _ =>
      pushBack token
      readSimple fuel line [] [] [] []
    | .reserved "if" => readBehind fuel line (← readBranch fuel)
    | .reserved "while" => readBehind fuel line (← readLoop fuel true)
    | .reserved "until" => readBehind fuel line (← readLoop fuel false)
    | .reserved "for" => readBehind fuel line (← readFor fuel line false)
    | .reserved "select" => readBehind fuel line (← readFor fuel line true)
    | .reserved "case" => readBehind fuel line (← readCase fuel line)
    | .reserved "coproc" => readCoprocess fuel line
    | .reserved "[[" =>
      let condition ← readCondition fuel
      match ← nextToken fuel true false false with
      | .word (.mk _ [.text "]]" false]) => readBehind fuel line (.check line condition)
      | token => fail (.badCondition token.name)
    | .reserved "function" =>
      match ← nextToken fuel false false false with
      | .word wording =>
        if ← acceptAll ['(', ')'] then pure ()
        readFunction fuel wording.word
      | token => unexpected token none
    | .reserved "\x7b" =>
      let body ← readList fuel false false
      expectToken fuel (.reserved "\x7d")
      readBehind fuel line (.group body)
    | .mark "(" =>
      let before ← get
      let isSum ← if before.dialect = .extended then accept '(' else pure false
      if isSum then
        try
          let place := (Place.bare line).sum line
          let expression ← spelled (readSegments fuel place)
          readBehind fuel line (.calculate line (expression.dropEnd 2))
        catch error =>
          set before
          try readParentheses fuel line catch _ => throw error
      else readParentheses fuel line
    | _ => unexpected token none
termination_by structural fuel

/-- Reads a command that runs beside the script, behind its first word. One that is no simple
command may have a name in front. -/
def readCoprocess (fuel line : Nat) : Reading Command :=
  match fuel with
  | 0 => unexpected .ended none
  | fuel + 1 => do
    let before ← get
    let named ←
      match ← nextToken fuel false true true with
      | .word wording =>
        match plainWord? wording.word, ← nextToken fuel false true true with
        | some name, token =>
          let starts : Bool :=
            match token with
            | .reserved _ | .mark "(" => true
            | _ => false
          if starts && isName name.toList then
            pushBack token
            pure (some name)
          else pure none
        | none, _ => pure none
      | _ => pure none
    if named.isNone then set before
    let inner := (← get).rest
    let body ← readCommand fuel
    let text := inner.take (inner.length - (← get).rest.length)
    let name := named.getD "COPROC"
    return .coprocess line name (trimmedText text) body
termination_by structural fuel

/-- Reads what stands behind a compound command. -/
def readBehind (fuel line : Nat) (command : Command) : Reading Command :=
  match fuel with
  | 0 => return command
  | fuel + 1 => do return command.redirect line (← readRedirects fuel)
termination_by structural fuel

/-- Reads commands in parentheses behind the first of these. -/
def readParentheses (fuel line : Nat) : Reading Command :=
  match fuel with
  | 0 => unexpected .ended none
  | fuel + 1 => do
    let body ← readList fuel false false
    expectToken fuel (.mark ")")
    readBehind fuel line (.subshell line body [])
termination_by structural fuel

/-- Takes a token that must be there. -/
def expectToken (fuel : Nat) (expected : Token) : Reading Unit :=
  match fuel with
  | 0 => return ()
  | fuel + 1 => do
    let token ← nextToken fuel false true true
    match expected, token with
    | .mark a, .mark b => if a != b then unexpected token (some a)
    | .reserved a, .reserved b => if a != b then unexpected token (some a)
    | .mark a, _ | .reserved a, _ => unexpected token (some a)
    | _, _ => return ()
termination_by structural fuel

/-- Reads a branch behind its first word. -/
def readBranch (fuel : Nat) : Reading Command :=
  match fuel with
  | 0 => unexpected .ended none
  | fuel + 1 => do
    let condition ← readList fuel false false
    expectToken fuel (.reserved "then")
    let body ← readList fuel false false
    match ← nextToken fuel false true true with
    | .reserved "elif" => return .branch condition body [← readBranch fuel]
    | .reserved "else" =>
      let otherwise ← readList fuel false false
      expectToken fuel (.reserved "fi")
      return .branch condition body otherwise
    | token =>
      pushBack token
      expectToken fuel (.reserved "fi")
      return .branch condition body []
termination_by structural fuel

/-- Reads the body of a loop behind its first word. -/
def readBody (fuel : Nat) : Reading (List Command) :=
  match fuel with
  | 0 => return []
  | fuel + 1 => do
    let body ← readList fuel false false
    expectToken fuel (.reserved "done")
    return body
termination_by structural fuel

/-- Reads a conditional loop behind its first word. -/
def readLoop (fuel : Nat) (whileTrue : Bool) : Reading Command :=
  match fuel with
  | 0 => unexpected .ended none
  | fuel + 1 => do
    let condition ← readList fuel false false
    expectToken fuel (.reserved "do")
    return .loop whileTrue condition (← readBody fuel)
termination_by structural fuel

/-- Reads words up to another token, which is given too. -/
def readWords (fuel : Nat) : Reading (List Wording × Token) :=
  match fuel with
  | 0 => return ([], .ended)
  | fuel + 1 => do
    match ← nextToken fuel false false false with
    | .word wording =>
      let (words, token) ← readWords fuel
      return (wording :: words, token)
    | token => return ([], token)
termination_by structural fuel

/-- Reads a loop over words behind its first word; one that asks does not count. -/
def readFor (fuel : Nat) (line : Nat) (asks : Bool) : Reading Command :=
  match fuel with
  | 0 => unexpected .ended none
  | fuel + 1 => do
    let counts ← if (← get).dialect = .extended && !asks then acceptCount fuel else pure false
    if counts then readCount fuel line
    else
      let name ←
        match ← nextToken fuel false false false with
        | .word wording =>
          match plainWord? wording.word with
          | some text =>
            if isName text.toList then pure text else fail (.badLoopName text)
          | none => fail (.badLoopName (literalText wording.word).1)
        | token =>
          match (← get).dialect with
          | .common => fail (.badLoopName token.name.text)
          | .extended => unexpected token none
      match ← nextToken fuel true true true with
      | .reserved "in" =>
        let (words, token) ← readWords fuel
        match token with
        | .newline => readHereTexts fuel
        | .mark ";" => pure ()
        | token => unexpected token none
        return .forEach line name (some words) asks (← readOpenBody fuel)
      | .mark ";" => return .forEach line name none asks (← readOpenBody fuel)
      | token =>
        pushBack token
        return .forEach line name none asks (← readOpenBody fuel)
termination_by structural fuel

/-- Reads the body of a loop with its first word. -/
def readOpenBody (fuel : Nat) : Reading (List Command) :=
  match fuel with
  | 0 => return []
  | fuel + 1 => do
    match ← nextToken fuel true true true with
    | .reserved "do" => readBody fuel
    | .reserved "\x7b" =>
      if (← get).dialect = .extended then
        let body ← readList fuel false false
        expectToken fuel (.reserved "\x7d")
        return body
      else unexpected (.reserved "\x7b") (some "do")
    | token => unexpected token (some "do")
termination_by structural fuel

/-- Reads a loop that counts behind its opening parentheses. -/
def readCount (fuel : Nat) (line : Nat) : Reading Command :=
  match fuel with
  | 0 => unexpected .ended none
  | fuel + 1 => do
    let place := (Place.bare line).argument [';'] true line
    let start ← spelled (readSegments fuel place)
    skip 1
    let condition ← spelled (readSegments fuel place)
    skip 1
    let step := (← spelled (readSegments fuel ((Place.bare line).sum line))).dropEnd 2
    let token ← nextToken fuel false true false
    let token ←
      match token with
      | .mark ";" | .newline => nextToken fuel true true false
      | token => pure token
    match token with
    | .reserved "do" => return .count line start condition step (← readBody fuel)
    | .reserved "\x7b" =>
      let body ← readList fuel false false
      expectToken fuel (.reserved "\x7d")
      return .count line start condition step body
    | token => unexpected token (some "do")
termination_by structural fuel

/-- Reads a choice by patterns behind its first word. -/
def readCase (fuel : Nat) (line : Nat) : Reading Command :=
  match fuel with
  | 0 => unexpected .ended none
  | fuel + 1 => do
    match ← nextToken fuel false false false with
    | .word wording =>
      match ← nextToken fuel true true true with
      | .reserved "in" => return .choose line wording (← readClauses fuel)
      | token => unexpected token (some "in")
    | token => unexpected token (some "word")
termination_by structural fuel

/-- Reads the clauses of a choice up to its last word. -/
def readClauses (fuel : Nat) : Reading (List (List Wording × List Command × String)) :=
  match fuel with
  | 0 => return []
  | fuel + 1 => do
    match ← nextToken fuel true true false with
    | .reserved "esac" => return []
    | token =>
      let first ←
        match token with
        | .mark "(" => nextToken fuel false false false
        | token => pure token
      let patterns ← readPatterns fuel first
      let body ← readList fuel false true
      match ← nextToken fuel true true false with
      | .reserved "esac" => return [(patterns, body, ";;")]
      | .mark mark =>
        if [";;", ";&", ";;&"].contains mark then
          return (patterns, body, mark) :: (← readClauses fuel)
        else unexpected (.mark mark) (some ";;")
      | token => unexpected token (some ";;")
termination_by structural fuel

/-- Reads the patterns of a clause from its first token on, and the parenthesis behind them. In the
common language anything may stand for a pattern; it is told only what follows. -/
def readPatterns (fuel : Nat) (token : Token) : Reading (List Wording) :=
  match fuel with
  | 0 => return []
  | fuel + 1 => do
    let dialect := (← get).dialect
    let word ←
      match token, dialect with
      | .word wording, _ => pure wording
      | .reserved text, _ => pure (.mk text [.text text false])
      | _, .common => pure (.mk "" [])
      | _, .extended => unexpected token none
    match ← nextToken fuel false false false with
    | .mark "|" =>
      let next ← nextToken fuel false false false
      return word :: (← readPatterns fuel next)
    | .mark ")" => return [word]
    | token => unexpected token (some ")")
termination_by structural fuel

/-- Reads a condition in double brackets: alternatives. -/
def readCondition (fuel : Nat) : Reading Condition :=
  match fuel with
  | 0 => fail (.badCondition .ended)
  | fuel + 1 => do
    let first ← readConditions fuel
    match ← nextToken fuel true false false with
    | .mark "||" => return .either first (← readCondition fuel)
    | token =>
      pushBack token
      return first
termination_by structural fuel

/-- Reads conditions that have to hold together. -/
def readConditions (fuel : Nat) : Reading Condition :=
  match fuel with
  | 0 => fail (.badCondition .ended)
  | fuel + 1 => do
    let first ← readOneCondition fuel
    match ← nextToken fuel true false false with
    | .mark "&&" => return .both first (← readConditions fuel)
    | token =>
      pushBack token
      return first
termination_by structural fuel

/-- Reads one condition. -/
def readOneCondition (fuel : Nat) : Reading Condition :=
  match fuel with
  | 0 => fail (.badCondition .ended)
  | fuel + 1 => do
    match ← nextToken fuel true false false with
    | .mark "(" =>
      let inner ← readCondition fuel
      match ← nextToken fuel true false false with
      | .mark ")" => return .inner inner
      | token => fail (.badCondition token.name)
    | .word word =>
      let text := (plainWord? word.word).getD ""
      if text = "!" then return .not (← readOneCondition fuel)
      else
        match ← nextToken fuel false false false with
        | .word second =>
          let mark := (plainWord? second.word).getD ""
          if pairMarks.contains mark then
            skipBlanks fuel
            let line := (← get).line
            let place := Place.bare line
            let isPattern := ["=", "==", "!=", "=~"].contains mark
            let third ← spelled
              (readSegments fuel (if isPattern then { place with stop := .pattern 0 } else place))
            if third.word.isEmpty then
              fail (.badCondition (← nextToken fuel false false false).name)
            return .two mark word third
          else if isConditionMark text && mark != "]]" then return .one text second
          else
            pushBack (.word second)
            if mark = "]]" then return .one "-n" word
            else fail (.badCondition (.word (literalText second.word).1))
        | .redirect none none mark =>
          match ← nextToken fuel false false false with
          | .word second => return .two mark word second
          | token => fail (.badCondition token.name)
        | token =>
          pushBack token
          return .one "-n" word
    | token => fail (.badCondition token.name)
termination_by structural fuel

end

/-- Fuel that is enough for a text. -/
def readingFuel (s : List Char) : Nat := 24 * (s.length + 2)

/-- Reads the commands of the next line; nothing at the end of the text. -/
def readLine : Reading (Option (List Command)) := do
  modify fun source => { source with pushed := none }
  let fuel := readingFuel (← get).rest
  let commands ← readList fuel true true
  match commands, (← get).pushed with
  | [], some .ended => return none
  | commands, _ => return some commands

end Runbook.Shell
