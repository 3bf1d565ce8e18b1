import Runbook.Shell.Reader.Spelling

/-!
# Commands as they are listed

The extended language lists functions with a command on each line, indented by how deep it stands.
Words keep their spelling; here texts follow the line that they are opened on.
-/

namespace Runbook.Shell

/-- How commands are listed: the here texts that they know, and by how many blanks a command inside
of another one is indented. -/
structure ListingStyle where
  hereTexts : Array Wording
  step : Nat

/-- A listed command, and the here texts that follow its line. -/
structure Listed where
  text : String
  hereTexts : String

namespace Listed

/-- A listed command without here texts. -/
def ofText (text : String) : Listed := ⟨text, ""⟩

/-- All of it. -/
def all (listed : Listed) : String := listed.text ++ listed.hereTexts

/-- A line end and the blanks in front of a text. -/
def newline (indent : Nat) (text : String) : String :=
  "\n" ++ String.ofList (List.replicate indent ' ') ++ text

/-- A text that ends its command. -/
def ended (text : String) : String :=
  match text.toList.getLast? with
  | some '&' | some '\n' => text
  | _ => text ++ ";"

end Listed

/-- A redirection as it is listed. -/
def Redirect.listed (hereTexts : Array Wording) : Redirect → Listed
  | .mk descriptor holder kind target number =>
    let place (usual : Nat) : String :=
      match holder with
      | some name => "\x7b" ++ name ++ "\x7d"
      | none => if descriptor = usual then "" else toString descriptor
    let leads (usual : Nat) (mark : String) : Listed := .ofText (place usual ++ mark ++ target.text)
    match kind with
    | .input => leads 0 "< "
    | .output => leads 1 "> "
    | .overwrite => leads 1 ">| "
    | .append => leads 1 ">> "
    | .both => leads 1 "<> "
    | .hereWord => leads 0 "<<< "
    | .outputAndErrors false => .ofText ("&> " ++ target.text)
    | .outputAndErrors true => .ofText ("&>> " ++ target.text)
    | .copyInput => leads 1000 (if target.text = "-" then ">&" else "<&")
    | .copyOutput => leads 1000 ">&"
    | .hereText =>
      let (mark, quoted) := literalText target.word
      let shown := if quoted then String.ofList (singleQuotedText mark.toList) else mark
      let body := (hereTexts[number]?.map Wording.text).getD ""
      ⟨place 0 ++ "<<" ++ shown, "\n" ++ body ++ mark ++ "\n"⟩

/-- Redirections as they are listed. -/
def listedRedirects (hereTexts : Array Wording) (redirects : List Redirect) : Listed :=
  let parts := redirects.map (Redirect.listed hereTexts)
  ⟨" ".intercalate (parts.map Listed.text), String.join (parts.map Listed.hereTexts)⟩

/-- An assignment as it is listed. -/
def Assignment.text : Assignment → String
  | .value _ _ _ _ text | .list _ _ _ text => text

/-- A simple command as it is listed. -/
def listedSimple (hereTexts : Array Wording) (assignments : List Assignment) (words : List Wording)
    (redirects : List Redirect) : Listed :=
  let texts := assignments.map Assignment.text ++ words.map Wording.text
  let last := listedRedirects hereTexts redirects
  ⟨" ".intercalate (texts ++ if redirects.isEmpty then [] else [last.text]), last.hereTexts⟩

/-- A condition as it is listed. -/
def Condition.listed : Condition → String
  | .one operator word => operator ++ " " ++ word.text
  | .two operator first second => first.text ++ " " ++ operator ++ " " ++ second.text
  | .inner condition => "( " ++ condition.listed ++ " )"
  | .not condition => "! " ++ condition.listed
  | .both first second => first.listed ++ " && " ++ second.listed
  | .either first second => first.listed ++ " || " ++ second.listed

/-- The first line of a loop over words. -/
def loopHead (asks : Bool) (name : String) (words : Option (List Wording)) : String :=
  let texts := words.elim ["\x22$@\x22"] fun words => words.map Wording.text
  (if asks then "select " else "for ") ++ name ++ " in " ++ " ".intercalate texts

/-- The first line of a choice. -/
def choiceHead (word : Wording) : String := "case " ++ word.text ++ " in "

/-- An expression as it is listed. -/
def listedExpression (expression : Wording) : String := "((" ++ expression.text ++ "))"

mutual

/-- A command as it is listed behind so many blanks. -/
def listedCommand (fuel : Nat) (style : ListingStyle) (indent : Nat) (command : Command) :
    Listed :=
  match fuel with
  | 0 => .ofText ""
  | fuel + 1 =>
    let within := indent + style.step
    let body (commands : List Command) : String := listedBody fuel style within commands
    let test (commands : List Command) : String := listedLines fuel style indent commands
    let lead (n : Nat) (text : String) : String := Listed.newline n text
    match command with
    | .simple _ assignments words redirects =>
        listedSimple style.hereTexts assignments words redirects
    | .declare _ words _ redirects => listedSimple style.hereTexts [] words redirects
    | .negate inner =>
      let inner := listedCommand fuel style indent inner
      { inner with text := "! " ++ inner.text }
    | .pipeline parts =>
      let parts := parts.map (listedCommand fuel style indent)
      ⟨" | ".intercalate (parts.map Listed.text), String.join (parts.map Listed.hereTexts)⟩
    | .both first second => joined fuel style indent " && " first second
    | .either first second => joined fuel style indent " || " first second
    | .background _ _ inner =>
      let inner := listedCommand fuel style indent inner
      { inner with text := inner.text ++ " &" }
    | .subshell _ commands redirects =>
      let text := "( " ++ test commands ++ " )"
      let last := listedRedirects style.hereTexts redirects
      if redirects.isEmpty then .ofText text else ⟨text ++ " " ++ last.text, last.hereTexts⟩
    | .group commands =>
      .ofText ("\x7b " ++ lead within (listedLines fuel style within commands) ++
        lead indent "\x7d")
    | .branch condition commands otherwise =>
      let first := "if " ++ Listed.ended (test condition) ++ " then" ++ body commands
      let last :=
        if otherwise.isEmpty then ""
        else lead indent "else" ++ body otherwise
      .ofText (first ++ last ++ lead indent "fi")
    | .loop whileTrue condition commands =>
      .ofText ((if whileTrue then "while " else "until ") ++ Listed.ended (test condition) ++
        " do" ++
        body commands ++ lead indent "done")
    | .forEach _ name words asks commands =>
      .ofText (loopHead asks name words ++ ";" ++ lead indent "do" ++ body commands ++
        lead indent "done")
    | .count _ start condition step commands =>
      .ofText ("for ((" ++ start.text ++ "; " ++ condition.text ++ "; " ++ step.text ++ "))" ++
        lead indent "do" ++ body commands ++ lead indent "done")
    | .choose _ word clauses =>
      .ofText (choiceHead word ++ String.join (clauses.map fun (patterns, commands, mark) =>
          lead within (" | ".intercalate (patterns.map Wording.text)) ++ ")" ++
            (if commands.isEmpty then "\n"
            else
              lead (within + style.step) (listedLines fuel style (within + style.step) commands)) ++
            lead within mark) ++
        lead indent "esac")
    | .calculate _ expression => .ofText (listedExpression expression)
    | .check _ condition => .ofText ("[[ " ++ condition.listed ++ " ]]")
    | .define _ name inner =>
      .ofText ("function " ++ name ++ " () " ++
        lead indent (listedFunction fuel style indent inner))
    | .coprocess _ name _ inner =>
      let inner := listedCommand fuel style indent inner
      { inner with text := "coproc " ++ name ++ " " ++ inner.text }
    | .redirected _ inner redirects =>
      let inner := listedCommand fuel style indent inner
      let last := listedRedirects style.hereTexts redirects
      ⟨inner.text ++ " " ++ last.text, inner.hereTexts ++ last.hereTexts⟩

/-- Two commands with a mark between them. -/
def joined (fuel : Nat) (style : ListingStyle) (indent : Nat) (mark : String)
    (first second : Command) : Listed :=
  match fuel with
  | 0 => .ofText ""
  | fuel + 1 =>
    let first := listedCommand fuel style indent first
    let second := listedCommand fuel style indent second
    { second with text := first.text ++ mark ++ first.hereTexts ++ second.text }

/-- Commands on lines of their own, the first one where the line stands. -/
def listedLines (fuel : Nat) (style : ListingStyle) (indent : Nat) (commands : List Command) :
    String :=
  match fuel with
  | 0 => ""
  | fuel + 1 =>
    match commands with
    | [] => ""
    | [last] => (listedCommand fuel style indent last).all
    | first :: rest =>
      let listed := listedCommand fuel style indent first
      let rest := listedLines fuel style indent rest
      match first with
      | .background _ _ _ => listed.all ++ " " ++ rest
      | _ =>
        listed.text ++ (if listed.hereTexts = "" then ";" else listed.hereTexts) ++
          Listed.newline indent rest

/-- The commands in the body of another one, on lines of their own. -/
def listedBody (fuel : Nat) (style : ListingStyle) (indent : Nat) (commands : List Command) :
    String :=
  match fuel with
  | 0 => ""
  | fuel + 1 => Listed.ended (Listed.newline indent (listedLines fuel style indent commands))

/-- The body of a function behind its name. -/
def listedFunction (fuel : Nat) (style : ListingStyle) (indent : Nat) (body : Command) :
    String :=
  match fuel with
  | 0 => ""
  | fuel + 1 =>
    let within := indent + style.step
    let listed (commands : List Command) : String :=
      "\x7b " ++ Listed.newline within (listedLines fuel style within commands) ++
        Listed.newline indent "\x7d"
    match body with
    | .group commands => listed commands
    | .redirected _ (.group commands) redirects =>
      let last := listedRedirects style.hereTexts redirects
      listed commands ++ " " ++ last.all
    | body => listed [body]

end

/-- A function as it is listed. -/
def functionText (hereTexts : Array Wording) (name : String) (body : Command) : String :=
  name ++ " () \n" ++ listedFunction 100000 ⟨hereTexts, 4⟩ 0 body ++ "\n"

/-- The body of a function as it is given to programs. -/
def givenFunction (hereTexts : Array Wording) (body : Command) : String :=
  let commands :=
    match body with
    | .group commands => commands
    | body => [body]
  "() \x7b  " ++ listedLines 100000 ⟨hereTexts, 0⟩ 1 commands ++ "\n\x7d"

/-- What is told as the command that is being run, of those that are told. -/
def Command.shown? (hereTexts : Array Wording) : Command → Option String
  | .simple _ assignments words redirects =>
    some (listedSimple hereTexts assignments words redirects).all
  | .declare _ words _ redirects => some (listedSimple hereTexts [] words redirects).all
  | .calculate _ expression => some (listedExpression expression)
  | .check _ condition => some ("[[ " ++ condition.listed ++ " ]]")
  | .choose _ word _ => some (choiceHead word)
  | _ => none

end Runbook.Shell
