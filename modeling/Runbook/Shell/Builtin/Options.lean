import Runbook.Shell.Builtin.Variables

/-!
# Commands for options and arguments

Options change how a shell works. They are named by letters or by words.
-/

namespace Runbook.Shell

/-- The options with names and their letters, in the order in which they are listed. -/
def commonOptions : List (String × Option Char) :=
  [("errexit", some 'e'), ("noglob", some 'f'), ("ignoreeof", some 'I'), ("interactive", some 'i'),
   ("monitor", some 'm'), ("noexec", some 'n'), ("stdin", some 's'), ("xtrace", some 'x'),
   ("verbose", some 'v'), ("vi", some 'V'), ("emacs", some 'E'), ("noclobber", some 'C'),
   ("allexport", some 'a'), ("notify", some 'b'), ("nounset", some 'u'),
   ("privileged", some 'p'), ("nolog", some '\x01'), ("debug", some '\x02')]

/-- The options of the extended language. -/
def extendedOptions : List (String × Option Char) :=
  [("allexport", some 'a'), ("braceexpand", some 'B'), ("emacs", some '\x01'),
   ("errexit", some 'e'), ("errtrace", some 'E'), ("functrace", some 'T'), ("hashall", some 'h'),
   ("histexpand", some 'H'), ("history", some '\x02'), ("ignoreeof", some '\x03'),
   ("interactive-comments", some '\x04'), ("keyword", some 'k'), ("monitor", some 'm'),
   ("noclobber", some 'C'), ("noexec", some 'n'), ("noglob", some 'f'), ("nolog", some '\x05'),
   ("notify", some 'b'), ("nounset", some 'u'), ("onecmd", some 't'), ("physical", some 'P'),
   ("pipefail", some '|'), ("posix", some '\x06'), ("privileged", some 'p'), ("verbose", some 'v'),
   ("vi", some '\x07'), ("xtrace", some 'x')]

/-- The options of a dialect. -/
def optionsIn (dialect : Dialect) : List (String × Option Char) :=
  match dialect with
  | .common => commonOptions
  | .extended => extendedOptions

/-- Whether an option is on. -/
def Machine.isOn (machine : Machine) (letter : Option Char) : Bool := letter.any machine.has

/-- Sets the option of a letter. -/
def Machine.setOption (machine : Machine) (letter : Char) (on : Bool) : Machine :=
  let others := machine.options.filter (· != letter)
  { machine with options := if on then letter :: others else others }

/-- Sets the option that a letter names; a letter that names none is a fault. -/
def setLetter (letter : Char) (on : Bool) : Act Unit := do
  let machine ← get
  let known := (optionsIn machine.dialect).any fun entry =>
    entry.2 = some letter && letter.isAlpha
  if known then set (machine.setOption letter on)
  else
    match machine.dialect with
    | .common => abandon 2 ("Illegal option -" ++ letter.toString)
    | .extended =>
      complainIn ((if on then "-" else "+") ++ letter.toString ++ ": invalid option")
      sayUsage
      setStatus 2
      throw .fault

/-- Sets the option with a name. -/
def setNamed (name : String) (on : Bool) : Act Unit := do
  let machine ← get
  match (optionsIn machine.dialect).lookup name with
  | some (some letter) => set (machine.setOption letter on)
  | _ =>
    match machine.dialect with
    | .common => abandon 2 ("Illegal option " ++ (if on then "-" else "+") ++ "o " ++ name)
    | .extended =>
      complainIn (name ++ ": invalid option name")
      setStatus 2
      throw .fault

/-- Lists the options, to be read or to be run again. -/
def listOptions (toRead : Bool) : Act Unit := do
  let machine ← get
  let width := if machine.isExtended then 15 else 16
  let pad (name : String) : String :=
    name ++ String.ofList (List.replicate (width - name.length) ' ')
  let line (entry : String × Option Char) : String :=
    let on := machine.isOn entry.2
    if toRead then
      pad entry.1 ++ (if machine.isExtended then "\t" else "") ++
        (if on then "on" else "off") ++ "\n"
    else "set " ++ (if on then "-o " else "+o ") ++ entry.1 ++ "\n"
  let front := if toRead && !machine.isExtended then "Current option settings\n" else ""
  say 1 (front ++ String.join ((optionsIn machine.dialect).map line))

/-- Gives the shell other arguments. -/
def setArguments (arguments : List String) : Act Unit := modify fun machine =>
  { machine with arguments, option := 1, optionOffset := 0 }

/-- Sets options from words; gives the arguments that follow them, if there are any. -/
def setFrom (fuel : Nat) (words : List String) : Act (Option (List String)) :=
  match fuel with
  | 0 => return none
  | fuel + 1 => do
    match words with
    | [] => return none
    | "--" :: arguments => return some arguments
    | "-" :: arguments =>
      modify fun machine => (machine.setOption 'x' false).setOption 'v' false
      return if arguments.isEmpty then none else some arguments
    | word :: rest =>
      let on := word.front == '-'
      match word.toList with
      | sign :: letters =>
        if sign != '-' && sign != '+' then return some words
        else
          let mut rest := rest
          for letter in letters do
            if letter == 'o' then
              match rest with
              | name :: others =>
                setNamed name on
                rest := others
              | [] => listOptions on
            else setLetter letter on
          setFrom fuel rest
      | [] => return some words

/-- Sets options and arguments of the shell; without any, its variables are listed. -/
def setCommand : Utility := fun words => do
  if words.isEmpty then
    let status ← listVariables "" fun entry => entry.content.isSome
    if (← get).isExtended then listFunctions fun _ => true else return status
  else
    match ← setFrom (words.length + 1) words with
    | some arguments => setArguments arguments
    | none => pure ()
    return 0

/-- The settings of the extended language that are on from the start. -/
def standardSettings : List String :=
  ["checkwinsize", "cmdhist", "complete_fullquote", "extquote", "force_fignore",
   "globasciiranges", "globskipdots", "hostcomplete", "interactive_comments", "patsub_replacement",
   "progcomp", "promptvars", "sourcepath"]

/-- The settings that are off at first. -/
def otherSettings : List String :=
  ["autocd", "assoc_expand_once", "cdable_vars", "cdspell", "checkhash", "checkjobs", "compat31",
   "compat32", "compat40", "compat41", "compat42", "compat43", "compat44", "direxpand", "dirspell",
   "dotglob", "execfail", "expand_aliases", "extdebug", "extglob", "failglob", "globstar",
   "gnu_errfmt", "histappend", "histreedit", "histverify", "huponexit", "inherit_errexit",
   "lastpipe", "lithist", "localvar_inherit", "localvar_unset", "login_shell", "mailwarn",
   "no_empty_cmd_completion", "nocaseglob", "nocasematch", "noexpand_translation", "nullglob",
   "progcomp_alias", "restricted_shell", "shift_verbose", "syslog_history", "varredir_close",
   "xpg_echo"]

/-- Switches settings of the extended language, or tells them. -/
def shoptCommand : Utility := fun arguments => do
  let (options, names) ← optionsOf "psuqo" arguments
  let has (letter : Char) : Bool := options.any (·.1 == letter)
  let all := standardSettings ++ otherSettings
  let machine ← get
  let isOn (name : String) : Bool := machine.settings.contains name
  let pad (name : String) : String :=
    name ++ String.ofList (List.replicate (15 - name.length) ' ')
  if names.isEmpty then
    let shown := (all.filter fun name =>
      if has 's' then isOn name else if has 'u' then !isOn name else true).mergeSort
    say 1 (String.join (shown.map fun name =>
      pad name ++ "\t" ++ (if isOn name then "on" else "off") ++ "\n"))
    return 0
  else
    forOperands (fun name => do
      if !all.contains name then
        complainIn (name ++ ": invalid shell option name")
        return 1
      else if has 's' then
        modify fun machine =>
          { machine with settings := name :: machine.settings.filter (· != name) }
        return 0
      else if has 'u' then
        modify fun machine => { machine with settings := machine.settings.filter (· != name) }
        return 0
      else
        if !has 'q' then say 1 (pad name ++ "\t" ++ (if isOn name then "on" else "off") ++ "\n")
        return if isOn name then 0 else 1) names

/-- Drops arguments from the front. -/
def shiftCommand : Utility := fun arguments => do
  let machine ← get
  let drop (n : Nat) : Act Nat := do
    if machine.arguments.length < n then
      match machine.dialect with
      | .common => abandon 2 "can't shift that many"
      | .extended => return 1
    else
      set { machine with
        arguments := machine.arguments.drop n, option := 1, optionOffset := 0 }
      return 0
  match arguments with
  | [] => drop 1
  | text :: _ =>
    match machine.dialect, text.toInt? with
    | .extended, none =>
      complainIn (text ++ ": numeric argument required")
      return 1
    | .extended, some n =>
      if n < 0 then
        complainIn (text ++ ": shift count out of range")
        return 1
      else drop n.toNat
    | .common, _ => drop (← numberOf text)

end Runbook.Shell
