import Runbook.Shell.Pattern
import Runbook.Shell.Utility.Names
import Runbook.Shell.Utility.Running
import Runbook.Shell.Utility.Search

/-!
# Walks through directories

A program walks through files and directories and judges each of them by an expression. Some parts
of an expression only have effects: they write the path, hand it to another program, remove what is
there, or turn the walk back.
-/

namespace Runbook.Shell

/-- An expression by which files and directories are judged. -/
inductive WalkTest where
  | always (result : Bool)
  | name (pattern : List Char) (folds whole : Bool)
  | matching (regex : Regex) (folds : Bool)
  | kind (letters : List Char)
  | empty
  | size (order : Ordering) (units unit : Nat)
  | canRun
  | write (ending : String)
  | writeForm (form : List Char)
  | run (words : List String) (together : Bool)
  | delete
  | prune
  | stop
  | not (test : WalkTest)
  | both (first second : WalkTest)
  | either (first second : WalkTest)
  | inOrder (first second : WalkTest)

/-- Whether an expression does something with what it judges. -/
def WalkTest.acts : WalkTest → Bool
  | write _ | writeForm _ | run _ _ | delete | stop => true
  | not test => test.acts
  | both first second | either first second | inOrder first second => first.acts || second.acts
  | _ => false

/-- How deep a walk goes, and whether a directory comes behind what is in it. -/
structure WalkBounds where
  least : Nat
  most : Option Nat
  inside : Bool

/-- What an expression is read to: the words ahead and the bounds that they set so far. -/
structure WalkSource where
  words : List String
  bounds : WalkBounds

/-- The words for something missing behind a word. -/
def missingBehind (word : String) : String := "missing argument to \x60" ++ word ++ "'"

/-- The size that a text asks for: more, less or just so many units. -/
def sizeTest? (text : String) : Option WalkTest := do
  let (order, s) : Ordering × List Char :=
    match text.toList with
    | '+' :: rest => (.gt, rest)
    | '-' :: rest => (.lt, rest)
    | rest => (.eq, rest)
  let digits := s.takeWhile Char.isDigit
  let n ← readNat? 10 digits
  let unit : Nat ←
    match s.drop digits.length with
    | [] | ['b'] => some 512
    | ['c'] => some 1
    | ['w'] => some 2
    | ['k'] => some 1024
    | ['M'] => some (1024 * 1024)
    | ['G'] => some (1024 * 1024 * 1024)
    | _ => none
  return .size order n unit

/-- The words up to the end of a command, and whether they ask for many paths at once. -/
def commandWords (taken : List String) : List String → Option (List String × Bool × List String)
  | [] => none
  | ";" :: rest => some (taken.reverse, false, rest)
  | "+" :: rest =>
    if taken.head? = some "\x7b\x7d" then some (taken.reverse.dropLast, true, rest)
    else commandWords ("+" :: taken) rest
  | word :: rest => commandWords (word :: taken) rest

/-- Reads one test that takes a value. -/
def valueTest? (word value : String) : Option (Except String WalkTest) :=
  match word with
  | "-name" => some (.ok (.name value.toList false false))
  | "-iname" => some (.ok (.name value.toList true false))
  | "-path" | "-wholename" => some (.ok (.name value.toList false true))
  | "-ipath" | "-iwholename" => some (.ok (.name value.toList true true))
  | "-regex" | "-iregex" =>
    some (((regexOf? .basic value.toList).map fun regex =>
      Except.ok (WalkTest.matching regex (word = "-iregex"))).getD (.error "invalid expression"))
  | "-type" =>
    some <|
      match value.toList.find? fun c => !"bcdpflsD,".toList.contains c with
      | some c => .error ("Unknown argument to -type: " ++ c.toString)
      | none => .ok (.kind value.toList)
  | "-size" =>
    some (((sizeTest? value).map .ok).getD (.error ("invalid -size type \x60" ++ value ++ "'")))
  | "-printf" => some (.ok (.writeForm value.toList))
  | "-user" | "-group" | "-uid" | "-gid" =>
    some (.ok (.always (value = "root" || value = "0")))
  | _ => none

/-- A test without a value. -/
def plainTest? (word : String) : Option WalkTest :=
  match word with
  | "-true" => some (.always true)
  | "-false" => some (.always false)
  | "-empty" => some .empty
  | "-executable" => some .canRun
  | "-readable" | "-writable" => some (.always true)
  | "-print" => some (.write "\n")
  | "-print0" => some (.write "\x00")
  | "-delete" => some .delete
  | "-prune" => some .prune
  | "-quit" => some .stop
  | _ => none

/-- Reads one test or option. -/
def walkPrimary (word : String) (source : WalkSource) : Except String (WalkTest × WalkSource) :=
  let depthOption (put : Nat → WalkBounds) : Except String (WalkTest × WalkSource) :=
    match source.words with
    | [] => .error (missingBehind word)
    | value :: rest =>
      match readNat? 10 value.toList with
      | some n => .ok (.always true, ⟨rest, put n⟩)
      | none =>
        .error ("Expected a positive decimal integer argument to " ++ word ++ ", but got ‘" ++
          value ++
          "’")
  match word with
  | "-maxdepth" => depthOption fun n => { source.bounds with most := some n }
  | "-mindepth" => depthOption fun n => { source.bounds with least := n }
  | "-depth" | "-d" =>
    .ok (.always true, { source with bounds := { source.bounds with inside := true } })
  | "-mount" | "-xdev" | "-follow" | "-noleaf" | "-daystart" => .ok (.always true, source)
  | "-exec" | "-execdir" | "-ok" =>
    match commandWords [] source.words with
    | none => .error (missingBehind word)
    | some (words, together, rest) => .ok (.run words together, { source with words := rest })
  | _ =>
    match plainTest? word, valueTest? word (source.words.headD "") with
    | some test, _ =>
      let inside := source.bounds.inside || word = "-delete"
      .ok (test, { source with bounds := { source.bounds with inside } })
    | none, some test =>
      match source.words with
      | [] => .error (missingBehind word)
      | _ :: rest => test.map fun test => (test, { source with words := rest })
    | none, none => .error ("unknown predicate \x60" ++ word ++ "'")

/-- The words that join two tests. -/
def walkJoins : List String := ["-o", "-or", "-a", "-and", ","]

mutual

/-- Reads tests joined by commas. -/
def walkList (fuel : Nat) (source : WalkSource) : Except String (WalkTest × WalkSource) :=
  match fuel with
  | 0 => .error "invalid expression"
  | fuel + 1 => do
    let (first, source) ← walkEither fuel source
    match source.words with
    | "," :: rest =>
      let (second, source) ← walkList fuel { source with words := rest }
      .ok (.inOrder first second, source)
    | _ => .ok (first, source)
termination_by structural fuel

/-- Reads tests of which one has to hold. -/
def walkEither (fuel : Nat) (source : WalkSource) : Except String (WalkTest × WalkSource) :=
  match fuel with
  | 0 => .error "invalid expression"
  | fuel + 1 => do
    let (first, source) ← walkBoth fuel source
    match source.words with
    | word :: rest =>
      if word = "-o" || word = "-or" then
        if rest.isEmpty then .error ("expected an expression after '" ++ word ++ "'")
        else
          let (second, source) ← walkEither fuel { source with words := rest }
          .ok (.either first second, source)
      else .ok (first, source)
    | [] => .ok (first, source)
termination_by structural fuel

/-- Reads tests that all have to hold. -/
def walkBoth (fuel : Nat) (source : WalkSource) : Except String (WalkTest × WalkSource) :=
  match fuel with
  | 0 => .error "invalid expression"
  | fuel + 1 => do
    let (first, source) ← walkOne fuel source
    let joined := match source.words with
      | "-a" :: rest | "-and" :: rest => some rest
      | word :: rest => if walkJoins.contains word || word = ")" then none else some (word :: rest)
      | [] => none
    match joined with
    | none => .ok (first, source)
    | some rest =>
      let (second, source) ← walkBoth fuel { source with words := rest }
      .ok (.both first second, source)
termination_by structural fuel

/-- Reads one test, one that is turned round, or some in brackets. -/
def walkOne (fuel : Nat) (source : WalkSource) : Except String (WalkTest × WalkSource) :=
  match fuel with
  | 0 => .error "invalid expression"
  | fuel + 1 =>
    match source.words with
    | [] => .error "invalid expression"
    | "(" :: rest => do
      let (test, source) ← walkList fuel { source with words := rest }
      match source.words with
      | ")" :: rest => .ok (test, { source with words := rest })
      | _ =>
        .error "invalid expression; I was expecting to find a ')' somewhere but did not see one."
    | word :: rest =>
      if word = "!" || word = "-not" then
        if rest.isEmpty then .error ("expected an expression after '" ++ word ++ "'")
        else do
          let (test, source) ← walkOne fuel { source with words := rest }
          .ok (.not test, source)
      else if walkJoins.contains word then
        .error ("invalid expression; you have used a binary operator '" ++ word ++
          "' with nothing before it.")
      else if word.startsWith "-" then walkPrimary word { source with words := rest }
      else .error ("paths must precede expression: \x60" ++ word ++ "'")
termination_by structural fuel

end

/-- What a walk comes to: whether the walk goes down from here and on at all, the paths that are
still to be handed on, and whether something failed. -/
structure WalkState where
  pruned : Bool
  stopped : Bool
  waiting : List (List String × List String)
  failed : Bool

/-- A file or directory that is judged: its path, the path that the walk started from, its depth,
its place, and what it is. -/
structure WalkItem where
  path : String
  start : String
  depth : Nat
  place : Location
  entry : DiskEntry

/-- The name of what is judged. -/
def WalkItem.name (item : WalkItem) : String := lastName item.path

/-- The size of what is judged. -/
def WalkItem.size (item : WalkItem) : Nat :=
  match item.entry with
  | .file bytes _ => bytes.length
  | .directory => 4096

/-- The letter for what is judged. -/
def WalkItem.letter (item : WalkItem) : Char := if item.entry = .directory then 'd' else 'f'

/-- The path of what is judged, in front of its name. -/
def WalkItem.above (item : WalkItem) : String :=
  if item.path.toList.contains '/' then
    String.ofList ((item.path.toList.reverse.dropWhile (· != '/')).drop 1).reverse
  else "."

/-- The text that a form gives for what is judged. -/
def WalkItem.formed (item : WalkItem) : List Char → String
  | [] => ""
  | '%' :: letter :: rest =>
    let text :=
      match letter with
      | 'p' => item.path
      | 'f' => item.name
      | 'h' => item.above
      | 'P' => String.ofList ((item.path.toList.drop item.start.length).dropWhile (· == '/'))
      | 's' => toString item.size
      | 'd' => toString item.depth
      | 'y' => item.letter.toString
      | 'm' => match item.entry with
        | .file _ false => "644"
        | _ => "755"
      | '%' => "%"
      | letter => String.ofList ['%', letter]
    text ++ item.formed rest
  | '\\' :: c :: rest => ((escaped? c).getD c).toString ++ item.formed rest
  | c :: rest => c.toString ++ item.formed rest

/-- Judges something by an expression; its effects take place. -/
def WalkTest.judge (tools : Tools) (item : WalkItem) :
    WalkTest → WalkState → Act (Bool × WalkState)
  | .always result, state => return (result, state)
  | .name pattern folds whole, state => do
    let fold (s : List Char) : List Char := if folds then s.map Char.toLower else s
    let text := if whole then item.path else item.name
    let parts := patternOf ⟨true, false, false⟩ ((fold pattern).map fun c => (c, false))
    return (matchesPattern parts (fold text.toList), state)
  | .matching regex folds, state => do
    let found := regex.find? folds item.path.toList
    return (found.any fun found => found.before.isEmpty && found.after.isEmpty, state)
  | .kind letters, state => return (letters.contains item.letter, state)
  | .empty, state => do
    let disk ← theDisk
    let isEmpty := match item.entry with
      | .file bytes _ => bytes.isEmpty
      | .directory => (disk.children item.place).isEmpty
    return (isEmpty, state)
  | .size order n unit, state =>
    return (compare ((item.size + unit - 1) / unit) n == order, state)
  | .canRun, state => return (match item.entry with
      | .file _ executable => executable
      | .directory => true, state)
  | .write ending, state => do
    say 1 (item.path ++ ending)
    return (true, state)
  | .writeForm form, state => do
    say 1 (item.formed form)
    return (true, state)
  | .run words true, state => do
    let others := (state.waiting.lookup words).getD []
    let waiting := (words, others ++ [item.path]) :: state.waiting.filter (·.1 != words)
    return (true, { state with waiting })
  | .run words false, state => do
    let status ← runFound tools (words.map (replacedAll "\x7b\x7d" item.path))
    return (status = 0, state)
  | .delete, state => do
    match ← changeDisk fun disk =>
      if item.entry = .directory && !(disk.children item.place).isEmpty then .error .notEmpty
      else .ok (disk.remove item.place) with
    | none => return (true, state)
    | some error =>
      report ("cannot delete ‘" ++ item.path ++ "’: " ++ error.text)
      return (false, { state with failed := true })
  | .prune, state => return (true, { state with pruned := true })
  | .stop, state => return (true, { state with stopped := true })
  | .not test, state => do
    let (result, state) ← test.judge tools item state
    return (!result, state)
  | .both first second, state => do
    let (result, state) ← first.judge tools item state
    if result && !state.stopped then second.judge tools item state else return (result, state)
  | .either first second, state => do
    let (result, state) ← first.judge tools item state
    if result || state.stopped then return (result, state) else second.judge tools item state
  | .inOrder first second, state => do
    let (_, state) ← first.judge tools item state
    if state.stopped then return (false, state) else second.judge tools item state
where
  runFound (tools : Tools) (words : List String) : Act Nat := do
    match ← tools.start [] words with
    | .ok child => return endStatus (← awaitProcess child)
    | .error error =>
      report ("‘" ++ words.headD "" ++ "’: " ++ error.text)
      return 1

/-- Walks through what is at and below a place, in order. -/
def walkFrom (fuel : Nat) (tools : Tools) (bounds : WalkBounds) (test : WalkTest) (start : String)
    (depth : Nat) (place : Location) (path : String) (state : WalkState) : Act WalkState :=
  match fuel with
  | 0 => return state
  | fuel + 1 => do
    if state.stopped then return state
    else
      let disk ← theDisk
      match disk.lookup place with
      | none => return state
      | some entry =>
        let item : WalkItem := ⟨path, start, depth, place, entry⟩
        let judge (state : WalkState) : Act WalkState := do
          if depth < bounds.least then return state
          else return (← test.judge tools item { state with pruned := false }).2
        let down (state : WalkState) : Act WalkState := do
          let isDeep := bounds.most.all fun most => depth < most
          if entry != .directory || !isDeep || state.pruned then
            return { state with pruned := false }
          else
            let names := ((← theDisk).children place).mergeSort
            names.foldlM (fun state name =>
              let child := if path.endsWith "/" then path ++ Text.encode name
                else path ++ "/" ++ Text.encode name
              walkFrom fuel tools bounds test start (depth + 1) (place ++ [name]) child state) state
        if bounds.inside then judge (← down { state with pruned := false })
        else down (← judge state)

/-- Walks through files and directories. -/
def findFiles : Program := fun tools arguments => do
  let arguments := arguments.dropWhile fun word => ["-H", "-L", "-P"].contains word
  let isTest (word : String) : Bool :=
    word = "(" || word = "!" || (word.startsWith "-" && word != "-")
  let starts := arguments.takeWhile (!isTest ·)
  let words := arguments.drop starts.length
  let fresh : WalkSource := ⟨words, ⟨0, none, false⟩⟩
  let read : Except String (WalkTest × WalkSource) :=
    if words.isEmpty then .ok (.always true, fresh) else walkList (4 * words.length + 8) fresh
  match read with
  | .error message =>
    report message
    return 1
  | .ok (test, source) =>
    match source.words with
    | word :: _ =>
      report ("paths must precede expression: \x60" ++ word ++ "'")
      return 1
    | [] =>
      let test := if test.acts then test else .both test (.write "\n")
      let mut state : WalkState := ⟨false, false, [], false⟩
      for start in (if starts.isEmpty then ["."] else starts) do
        match ← entryAt start with
        | .error error =>
          report ("‘" ++ start ++ "’: " ++ error.text)
          state := { state with failed := true }
        | .ok (place, _) =>
          state ← walkFrom 256 tools source.bounds test start 0 place start state
      let mut status := if state.failed then 1 else 0
      for (command, paths) in state.waiting.reverse do
        if (← WalkTest.judge.runFound tools (command ++ paths)) != 0 then status := 1
      return status

end Runbook.Shell
