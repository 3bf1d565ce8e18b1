import Runbook.Number.Reading
import Runbook.Text.Octets
import Runbook.Shell.Script

/-!
# The source of a script

A reader takes tokens from the front of a source and may fail. A backslash before a line end joins
two lines. The lines of a here text follow the line that its redirection stands on; they are read
when that line ends. An alias is replaced by its text, which is read like any other.
-/

namespace Runbook.Shell

/-- A piece of the text of a script. An assignment to a part of a list is a piece of its own. -/
inductive Token where
  | ended
  | newline
  | mark (text : String)
  | reserved (text : String)
  | redirect (descriptor : Option Nat) (name : Option String) (mark : String)
  | word (wording : Wording)
  | assigned (part : Assignment)

instance : Inhabited Token := ⟨.ended⟩

/-- A here text that is still to be read. -/
structure PendingText where
  number : Nat
  mark : String
  quoted : Bool
  stripTabs : Bool

/-- The text that is still to be read with the number of its line, the aliases and where the text of
those under way ends, the here texts, and a token that was put back. Lengths are those of the text
left. -/
structure Source where
  rest : List Char
  line : Nat
  dialect : Dialect
  aliases : List (String × String)
  openAliases : List (String × Nat)
  aliasesUpTo : Option Nat
  pending : List PendingText
  hereTexts : Array Wording
  pushed : Option Token

/-- Reading from a source. -/
def Reading (α : Type) : Type := Source → Except ScriptError (α × Source)

namespace Reading

/-- Reads nothing. -/
def give {α : Type} (a : α) : Reading α := fun source => .ok (a, source)

/-- Reads one piece and then another one. -/
def andThen {α β : Type} (first : Reading α) (second : α → Reading β) : Reading β := fun source =>
  match first source with
  | .ok (a, source) => second a source
  | .error error => .error error

/-- Reads another piece from the same place where the first one cannot be read. -/
def orElse {α : Type} (first : Reading α) (second : ScriptError → Reading α) : Reading α :=
  fun source =>
    match first source with
    | .ok result => .ok result
    | .error error => second error source

instance : Monad Reading where
  pure := give
  bind := andThen

instance : MonadStateOf Source Reading where
  get := fun source => .ok (source, source)
  set source := fun _ => .ok ((), source)
  modifyGet f := fun source => .ok (f source)

instance : MonadExceptOf ScriptError Reading where
  throw error := fun _ => .error error
  tryCatch := orElse

end Reading

/-- The value of the digits of a base that a text starts with and their number, at most so many. -/
def numberAhead (base most : Nat) (s : List Char) : Nat × Nat :=
  let digits := (s.take most).takeWhile fun c => (readNat? base [c]).isSome
  ((readNat? base digits).getD 0, digits.length)

/-- The characters that end a word unless they are quoted. -/
def endsWord (c : Char) : Bool := " \t\n;&|<>()".toList.contains c

/-- The characters that names of variables start with. -/
def startsName (c : Char) : Bool := c.isAlpha || c == '_'

/-- The characters of names of variables. -/
def isNameChar (c : Char) : Bool := c.isAlphanum || c == '_'

/-- Whether a text is the name of a variable. -/
def isName (s : List Char) : Bool := s.head?.any startsName && s.all isNameChar

/-- The words with a meaning of their own at the start of a command. -/
def reservedWords : List String :=
  ["!", "\x7b", "\x7d", "case", "do", "done", "elif", "else", "esac", "fi", "for", "if", "in",
   "then", "until", "while"]

/-- The words that the extended language reserves besides. -/
def extendedWords : List String := ["[[", "coproc", "function", "select", "time"]

/-- Whether a word has a meaning of its own at the start of a command. -/
def Dialect.reserves (dialect : Dialect) (word : String) : Bool :=
  reservedWords.contains word || (dialect = .extended && extendedWords.contains word)

/-- The name of a token in messages. -/
def Token.name : Token → TokenName
  | .ended => .ended
  | .newline => .newline
  | .mark text | .reserved text => .mark text
  | .redirect _ _ text => .redirect text
  | .word wording => .word (literalText wording.word).1
  | .assigned (.value name _ _ _ _) | .assigned (.list name _ _ _) => .word name

/-- Whether a token ends a list of commands inside of another command. -/
def Token.endsList : Token → Bool
  | .ended => true
  | .mark text => [")", ";;", ";&", ";;&"].contains text
  | .reserved text =>
    ["do", "done", "elif", "else", "esac", "fi", "then", "\x7d"].contains text
  | _ => false

/-- Fails at a line; the text that the fault is about starts on another one. -/
def failFrom {α : Type} (start : Nat) (fault : ScriptFault) : Reading α := do
  throw ⟨(← get).line, start, fault⟩

/-- Fails at the present line. -/
def fail {α : Type} (fault : ScriptFault) : Reading α := do failFrom (← get).line fault

/-- Fails at a token. The extended language counts a line end as part of the line before it. -/
def unexpected {α : Type} (token : Token) (expected : Option String) : Reading α := do
  let fault := ScriptFault.unexpected token.name (expected.map fun text =>
    if text = "word" then text else "\x22" ++ text ++ "\x22")
  match token, (← get).dialect with
  | .newline, .extended =>
    modify fun source => { source with line := source.line - 1 }
    fail fault
  | _, _ => fail fault

/-- The text without joined lines in front, and the number of them. -/
def behindJoins : List Char → Nat × List Char
  | '\\' :: '\n' :: rest => ((behindJoins rest).1 + 1, (behindJoins rest).2)
  | rest => (0, rest)

/-- The text in front, where lines are joined. -/
def ahead : Reading (List Char) := do
  let source ← get
  let (joins, rest) := behindJoins source.rest
  set { source with rest, line := source.line + joins }
  return rest

/-- Goes on behind some characters; line ends among them are counted. -/
def skip (n : Nat) : Reading Unit := modify fun source =>
  { source with
    rest := source.rest.drop n, line := source.line + (source.rest.take n).count '\n' }

/-- Takes a character if it is next. -/
def accept (c : Char) : Reading Bool := do
  if (← ahead).head? = some c then
    skip 1
    return true
  else return false

/-- Takes a mark if it is next; its characters may stand on joined lines. -/
def acceptAll (mark : List Char) : Reading Bool := do
  let before ← get
  for c in mark do
    if !(← accept c) then
      set before
      return false
  return true

/-- Puts a token back. -/
def pushBack (token : Token) : Reading Unit :=
  modify fun source => { source with pushed := some token }

/-- Takes the characters in front that satisfy a condition. -/
def takeChars (fuel : Nat) (condition : Char → Bool) : Reading (List Char) :=
  match fuel with
  | 0 => return []
  | fuel + 1 => do
    match ← ahead with
    | c :: _ =>
      if condition c then
        skip 1
        return c :: (← takeChars fuel condition)
      else return []
    | [] => return []

/-- Goes on at the next token of the line. -/
def skipBlanks (fuel : Nat) : Reading Unit :=
  match fuel with
  | 0 => return ()
  | fuel + 1 => do
    match ← ahead with
    | ' ' :: _ | '\t' :: _ =>
      skip 1
      skipBlanks fuel
    | '#' :: rest => skip ((rest.takeWhile (· != '\n')).length + 1)
    | _ => return ()

/-- Reads another text that starts at a line. Here texts that it opens end with it. -/
def within {α : Type} (text : List Char) (read : Reading α) : Reading α := do
  let source ← get
  set { source with
    rest := text, pending := [], pushed := none, openAliases := [], aliasesUpTo := none }
  let value ← read
  modify fun after => { source with hereTexts := after.hereTexts }
  return value

/-- The marks made of several characters that are no redirections, longest first. -/
def longMarks (dialect : Dialect) : List String :=
  match dialect with
  | .common => ["&&", "||", ";;"]
  | .extended => [";;&", "&&", "||", ";;", ";&", "|&"]

/-- The marks of redirections, longest first. -/
def redirectMarks (dialect : Dialect) : List String :=
  match dialect with
  | .common => ["<<-", "<<", "<&", "<>", ">>", ">|", ">&", "<", ">"]
  | .extended =>
    ["<<<", "<<-", "&>>", "<<", "<&", "<>", ">>", ">|", ">&", "&>", "<", ">"]

/-- The first mark of a list that comes next; it is taken. -/
def acceptAny : List String → Reading (Option String)
  | [] => return none
  | mark :: marks => do
    if ← acceptAll mark.toList then return some mark else acceptAny marks

/-- The variable in braces in front of the mark of a redirection, which gets the number of a free
descriptor, and the number of its characters. -/
def holder? (s : List Char) : Option (String × Nat) :=
  match s with
  | '\x7b' :: rest =>
    let name := rest.takeWhile isNameChar
    match rest.drop name.length with
    | '\x7d' :: c :: _ =>
      if isName name && (c == '<' || c == '>') then some (String.ofList name, name.length + 2)
      else none
    | _ => none
  | _ => none

/-- The lines of a here text up to the line that ends it, and the text behind that line. A line
that is joined to the one before does not end it. -/
def hereLines (fuel : Nat) (pending : PendingText) (joined : Bool) (s : List Char) :
    List Char × List Char :=
  match fuel with
  | 0 => ([], s)
  | fuel + 1 =>
    if s.isEmpty then ([], [])
    else
      let line := s.takeWhile (· != '\n')
      let rest := s.drop (line.length + 1)
      let ended := line.length < s.length
      let line := if pending.stripTabs then line.dropWhile (· == '\t') else line
      if !joined && String.ofList line = pending.mark then ([], rest)
      else
        let joins :=
          !pending.quoted && (line.reverse.takeWhile (· == '\\')).length % 2 = 1
        let (more, rest) := hereLines fuel pending joins rest
        (line ++ (if ended then ['\n'] else []) ++ more, rest)

end Runbook.Shell
