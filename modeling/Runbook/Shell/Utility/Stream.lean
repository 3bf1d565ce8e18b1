import Runbook.Shell.Utility.EditScript

/-!
# Editing streams

A script of edits is run for each line of the input. An edit changes the line under way, writes it,
or goes on elsewhere in the script.
-/

namespace Runbook.Shell

/-- The state of an editor: the lines to come, the line under way and whether its end was there, its
number, the text that is held, what is to be written behind the line, what has been written, whether
something was replaced, which ranges are open and up to which line, and the expression used last. -/
structure Editor where
  lines : List (String × Bool)
  space : List Char
  ended : Bool
  number : Nat
  held : List Char
  behind : List String
  output : List String
  files : List (String × String)
  replaced : Bool
  ranges : List (Nat × Option Nat)
  lastRegex : Option Regex
  silent : Bool
  status : Nat

namespace Editor

/-- Writes text. -/
def put (editor : Editor) (text : String) : Editor :=
  { editor with output := text :: editor.output }

/-- The text of the line under way with its end. -/
def spaceText (editor : Editor) (text : List Char) : String :=
  Text.encode (String.ofList text) ++ if editor.ended || !editor.lines.isEmpty then "\n" else ""

/-- Writes the line under way. -/
def print (editor : Editor) : Editor := editor.put (editor.spaceText editor.space)

/-- Writes what is to stand behind the line. -/
def flush (editor : Editor) : Editor :=
  editor.behind.foldl (fun editor text => editor.put text) { editor with behind := [] }

/-- Goes on with the next line, if there is one. -/
def advance? (editor : Editor) : Option Editor :=
  match editor.lines with
  | [] => none
  | (line, ended) :: lines =>
    some { editor with
      lines, space := (Text.decode line).toList, ended, number := editor.number + 1 }

/-- Adds text to a file. -/
def writeTo (editor : Editor) (path text : String) : Editor :=
  if path = "/dev/stdout" then editor.put text
  else
    let old := (editor.files.lookup path).getD ""
    { editor with files := (path, old ++ text) :: editor.files.filter (·.1 != path) }

end Editor

/-- Whether a line is one of an address. -/
def LineAddress.holds (address : LineAddress) (editor : Editor) : Bool :=
  match address with
  | .number n => editor.number = n
  | .step start width =>
    if width = 0 then editor.number = start
    else start ≤ editor.number && (editor.number - start) % width = 0
  | .last => editor.lines.isEmpty
  | .found regex folds => (regex.find? folds editor.space).isSome
  | .again => (editor.lastRegex.bind fun regex => regex.find? false editor.space).isSome
  | _ => false

/-- Whether an edit is meant for the line under way; ranges are opened and closed. -/
def isMeant (n : Nat) (step : EditStep) (editor : Editor) : Bool × Editor :=
  let closed := editor.ranges.filter (·.1 != n)
  let (meant, editor) :=
    match step.first, step.second with
    | none, _ => (true, editor)
    | some first, none => (first.holds editor, editor)
    | some first, some second =>
      match editor.ranges.find? (·.1 == n) with
      | some (_, upTo) =>
        let isEnd : Bool :=
          match second, upTo with
          | _, some upTo => upTo ≤ editor.number
          | second, none => second.holds editor
        let isPast : Bool := upTo.any (· < editor.number)
        (!isPast || first.holds editor, if isEnd then { editor with ranges := closed } else editor)
      | none =>
        let zero : Bool :=
          match first with
          | .number 0 => editor.number = 1
          | _ => false
        if zero then
          (true, if second.holds editor then editor
            else { editor with ranges := (n, none) :: closed })
        else if first.holds editor then
          let upTo : Option Nat :=
            match second with
            | .number m => some m
            | .further m => some (editor.number + m)
            | .multiple m => some (if m = 0 then editor.number else (editor.number + m - 1) / m * m)
            | _ => none
          let isOpen : Bool := upTo.all fun m => editor.number < m
          let isLast : Bool :=
            match second with
            | .last => editor.lines.isEmpty
            | _ => false
          (true, if isOpen && !isLast then { editor with ranges := (n, upTo) :: closed }
            else editor)
        else (false, editor)
  (meant != step.negated, editor)

/-- The text that replaces a match. -/
def replacementText (found : RegexMatch) (parts : List ReplacePart) : List Char :=
  go none none parts
where
  apply (whole once : Option Char) (s : List Char) : List Char :=
    let s :=
      match whole with
      | some 'U' => s.map Char.toUpper
      | some 'L' => s.map Char.toLower
      | _ => s
    match once, s with
    | some 'u', c :: rest => c.toUpper :: rest
    | some 'l', c :: rest => c.toLower :: rest
    | _, s => s
  go (whole once : Option Char) : List ReplacePart → List Char
    | [] => []
    | .text s :: rest => apply whole once s ++ go whole none rest
    | .group n :: rest =>
      let s := if n = 0 then found.text else (found.groups.lookup n).getD []
      apply whole once s ++ go whole (if s.isEmpty then once else none) rest
    | .recase c :: rest =>
      if c == 'E' then go none none rest
      else if c == 'u' || c == 'l' then go whole (some c) rest
      else go (some c) none rest

/-- A text with matches replaced from one of them on, and whether any was. -/
def substituted (fuel : Nat) (regex : Regex) (s : Substitution) (count : Nat) (before : Option Char)
    (afterMatch : Bool) (text : List Char) : List Char × Bool :=
  match fuel with
  | 0 => (text, false)
  | fuel + 1 =>
    match regex.findBehind? s.foldsCase before text with
    | none => (text, false)
    | some found =>
      let step (passed : List Char) (isReplaced : Bool) (skipsEmpty : Bool) : List Char × Bool :=
        match found.text, found.after with
        | [], [] => (passed, isReplaced)
        | [], c :: rest =>
          let (more, any) :=
            substituted fuel regex s (if skipsEmpty then count else count + 1) (some c) false rest
          (passed ++ c :: more, isReplaced || any)
        | matched, after =>
          let (more, any) := substituted fuel regex s (count + 1) matched.getLast? true after
          (passed ++ more, isReplaced || any)
      if found.text.isEmpty && afterMatch && found.before.isEmpty then step found.before false true
      else if count < s.nth then step (found.before ++ found.text) false false
      else
        let new := found.before ++ replacementText found s.parts
        if s.all then step new true false else (new ++ found.after, true)

/-- A text as it is listed with marks for what cannot be seen. -/
def listedText (s : List Char) : String :=
  String.join (s.map fun c =>
    match c with
    | '\n' => "\\n"
    | '\t' => "\\t"
    | '\\' => "\\\\"
    | '\x07' => "\\a"
    | '\x08' => "\\b"
    | '\x0c' => "\\f"
    | '\r' => "\\r"
    | '\x0b' => "\\v"
    | c =>
      if ' ' ≤ c && c ≤ '~' then c.toString
      else
        String.join ((Text.encode c.toString).toList.map fun d =>
          "\\" ++ String.ofList (padLeft 3 '0' (Nat.toDigits 8 d.toNat)))) ++ "$\n"

/-- How a script goes on behind an edit: with the next one or another one, with the next line, with
the script again on what is left of the line, or not at all. -/
inductive EditNext where
  | go (n : Nat)
  | endLine
  | restart
  | stop

/-- Does one edit. -/
def doEdit (files : String → Option String) (steps : Array EditStep) (n : Nat) (edit : Edit)
    (isRange : Bool) (editor : Editor) : EditNext × Editor :=
  let go (editor : Editor) : EditNext × Editor := (.go (n + 1), editor)
  let jump (label : String) : EditNext :=
    if label = "" then .go steps.size
    else
      let isTarget (step : EditStep) : Bool :=
        match step.edit with
        | .label name => name = label
        | _ => false
      .go ((steps.findIdx? isTarget).getD steps.size)
  match edit with
  | .openBlock _ | .closeBlock | .label _ | .nothing => go editor
  | .number => go (editor.put (toString editor.number ++ "\n"))
  | .append text => go { editor with behind := editor.behind ++ [text] }
  | .insert text => go (editor.put text)
  | .change text =>
    let isOpen := isRange && editor.ranges.any (·.1 == n)
    (.endLine, { (if isOpen then editor else editor.put text) with silent := true })
  | .branch label => (jump label, editor)
  | .branchIf label when' =>
    if editor.replaced = when' then (jump label, { editor with replaced := false })
    else go { editor with replaced := false }
  | .delete => (.endLine, { editor with silent := true })
  | .deleteFirst =>
    if editor.space.contains '\n' then
      (.restart, { editor with space := (editor.space.dropWhile (· != '\n')).drop 1 })
    else (.endLine, { editor with silent := true })
  | .takeHold adds =>
    go { editor with space := if adds then editor.space ++ '\n' :: editor.held else editor.held }
  | .hold adds =>
    go { editor with held := if adds then editor.held ++ '\n' :: editor.space else editor.space }
  | .list => go (editor.put (listedText editor.space))
  | .next =>
    match editor.lines with
    | [] => (.stop, editor)
    | _ =>
      let editor := (if editor.silent then editor else editor.print).flush
      match editor.advance? with
      | some editor => go editor
      | none => (.stop, editor)
  | .join =>
    match editor.lines with
    | [] => (.stop, editor)
    | _ =>
      let editor := editor.flush
      match editor.advance? with
      | some next => go { next with space := editor.space ++ '\n' :: next.space }
      | none => (.stop, editor)
  | .print => go editor.print
  | .printFirst =>
    go (editor.put (Text.encode (String.ofList (editor.space.takeWhile (· != '\n'))) ++ "\n"))
  | .quit prints status =>
    (.stop, { editor with silent := editor.silent || !prints, status, lines := [] })
  | .readFile path =>
    match files path with
    | some text => go { editor with behind := editor.behind ++ [text] }
    | none => go editor
  | .writeFile path => go (editor.writeTo path (Text.encode (String.ofList editor.space) ++ "\n"))
  | .substitute s =>
    match s.expression.orElse fun _ => editor.lastRegex with
    | none => go editor
    | some regex =>
      let (space, any) := substituted (editor.space.length + 2) regex s 1 none false editor.space
      let editor := { editor with lastRegex := some regex }
      if !any then go editor
      else
        let editor := { editor with space, replaced := true }
        let editor := if s.prints then editor.print else editor
        match s.file with
        | some path => go (editor.writeTo path (Text.encode (String.ofList space) ++ "\n"))
        | none => go editor
  | .exchange => go { editor with space := editor.held, held := editor.space }
  | .translate pairs =>
    go { editor with space := editor.space.map fun c => (pairs.lookup c).getD c }
  | .clear => go { editor with space := [] }

/-- Runs the script for the line under way from an edit on; says whether the line is run again, and
whether all is over. -/
def editLine (fuel : Nat) (files : String → Option String) (steps : Array EditStep) (n : Nat)
    (editor : Editor) : Bool × Bool × Editor :=
  match fuel with
  | 0 => (false, true, editor)
  | fuel + 1 =>
    match steps[n]? with
    | none => (false, false, editor)
    | some step =>
      let (meant, editor) := isMeant n step editor
      if !meant then
        match step.edit with
        | .openBlock finish => editLine fuel files steps (finish + 1) editor
        | _ => editLine fuel files steps (n + 1) editor
      else
        match doEdit files steps n step.edit step.second.isSome editor with
        | (.go next, editor) => editLine fuel files steps next editor
        | (.endLine, editor) => (false, false, editor)
        | (.restart, editor) => (true, false, editor)
        | (.stop, editor) => (false, true, editor)

/-- Runs the script for all lines. -/
def editAll (fuel : Nat) (files : String → Option String) (steps : Array EditStep) (silent : Bool)
    (again : Bool) (editor : Editor) : Editor :=
  match fuel with
  | 0 => editor
  | fuel + 1 =>
    let next := if again then some editor else editor.advance?
    match next with
    | none => editor
    | some editor =>
      let editor := if again then editor else { editor with replaced := false }
      let (restarts, isOver, editor) := editLine 100000 files steps 0 { editor with silent }
      let editor := if editor.silent || restarts then editor else editor.print
      let editor := editor.flush
      if isOver then editor else editAll fuel files steps silent restarts editor

/-- The lines of a text, each with whether its end was there. -/
def linesWithEnds (text : String) : List (String × Bool) :=
  (endedLines text).map fun line =>
    if line.endsWith "\n" then (String.ofList line.toList.dropLast, true) else (line, false)

/-- An editor of some lines. -/
def Editor.of (lines : List (String × Bool)) : Editor :=
  ⟨lines, [], true, 0, [], [], [], [], false, [], none, false, 0⟩

/-- Writes text over a file. -/
def overwriteFile (path text : String) : Act Unit := do
  match ← openPath path .write with
  | .ok stream =>
    connect fileDescriptor (some stream)
    say fileDescriptor text
    connect fileDescriptor none
  | .error error => report ("couldn't open file " ++ path ++ ": " ++ error.text)

/-- The paths that a script reads. -/
def pathsRead (steps : List EditStep) : List String :=
  steps.filterMap fun step =>
    match step.edit with
    | .readFile path => some path
    | _ => none

/-- The paths that a script writes. -/
def pathsWritten (steps : List EditStep) : List String :=
  steps.filterMap fun step =>
    match step.edit with
    | .writeFile path => some path
    | .substitute s => s.file
    | _ => none

/-- Edits its input or files. -/
def sed : Program := fun _ =>
  withOptions ⟨"nEre:f:i::suz", [("quiet", 'n'), ("silent", 'n'), ("regexp-extended", 'E'),
    ("expression", 'e'), ("file", 'f'), ("in-place", 'i'), ("separate", 's')], false⟩ 1
    fun options operands => do
      let has (letter : Char) : Bool := hasOption options letter
      let style : RegexStyle := if has 'E' || has 'r' then .extended else .basic
      let parts ← options.filterMapM fun option => do
        if option.1 == 'e' then return some option.2
        else if option.1 == 'f' then return some ((← readOperand option.2).toOption.getD "")
        else return none
      match parts, operands with
      | [], [] =>
        say 2 "Usage: sed [OPTION]... \x7bscript-only-if-no-other-script\x7d [input-file]...\n"
        return 1
      | parts, operands =>
        let (script, operands) :=
          if parts.isEmpty then (operands.headD "", operands.drop 1)
          else ("\n".intercalate parts, operands)
        match editScript style script with
        | .error message =>
          report ("-e expression #1, " ++ message)
          return 1
        | .ok steps =>
          let mut contents : List (String × String) := []
          for path in pathsRead steps do
            match ← readOperand path with
            | .ok text => contents := (path, text) :: contents
            | .error _ => pure ()
          let files (path : String) : Option String := contents.lookup path
          let mut status := 0
          let mut texts : List (String × String) := []
          for operand in (if operands.isEmpty then ["-"] else operands) do
            match ← readOperand operand with
            | .ok text => texts := texts ++ [(operand, text)]
            | .error error =>
              if error = .isDirectory then
                report ("couldn't edit " ++ operand ++ ": not a regular file")
              else report ("can't read " ++ operand ++ ": " ++ error.text)
              status := 2
          let run (lines : List (String × Bool)) : Editor :=
            editAll (lines.length * 64 + 10000) files steps.toArray (has 'n') false (.of lines)
          let isApart := has 'i' || has 's'
          let mut written : List (String × String) :=
            (pathsWritten steps).map fun path => (path, "")
          if isApart then
            for (name, text) in texts do
              let editor := run (linesWithEnds text)
              let result := String.join editor.output.reverse
              written := editor.files ++ written
              if has 'i' then
                let backup := (lastValue? options 'i').getD ""
                if backup != "" then overwriteFile (name ++ backup) text
                overwriteFile name result
              else say 1 result
              status := max status editor.status
          else
            let lines := texts.flatMap fun entry => linesWithEnds entry.2
            let editor := run (joinEnds lines)
            say 1 (String.join editor.output.reverse)
            written := editor.files ++ written
            status := max status editor.status
          let mut done : List String := []
          for (path, text) in written do
            if !done.contains path && path != "/dev/stdout" then
              overwriteFile path text
              done := path :: done
          return status
where
  joinEnds : List (String × Bool) → List (String × Bool)
    | [] => []
    | [last] => [last]
    | (line, _) :: rest => (line, true) :: joinEnds rest

end Runbook.Shell
