import Runbook.Shell.Machine

/-!
# Home directories in words

A tilde at the start of a word stands for a home directory. In the value of an assignment it also
does behind a colon.
-/

namespace Runbook.Shell

/-- The home directories of users. -/
def homeDirectories : List (String × String) :=
  [("root", "/root"), ("daemon", "/usr/sbin"), ("bin", "/bin"), ("sys", "/dev"), ("sync", "/bin"),
   ("games", "/usr/games"), ("man", "/var/cache/man"), ("lp", "/var/spool/lpd"),
   ("mail", "/var/mail"), ("news", "/var/spool/news"), ("uucp", "/var/spool/uucp"),
   ("proxy", "/bin"), ("www-data", "/var/www"), ("backup", "/var/backups"), ("list", "/var/list"),
   ("irc", "/run/ircd"), ("nobody", "/nonexistent")]

/-- The directory that a name behind a tilde stands for. -/
def Machine.homeOf? (machine : Machine) (name : String) : Option String :=
  match machine.dialect, name with
  | .common, "" => machine.textOf? "HOME"
  | .extended, "" => some ((machine.textOf? "HOME").getD "/root")
  | .extended, "+" => some machine.path
  | .extended, "-" => machine.textOf? "OLDPWD"
  | .extended, name =>
    let directories := machine.path :: machine.otherPaths
    let place? : Option Nat :=
      match name.toList with
      | '-' :: digits => (readNat? 10 digits).bind fun n =>
        if n < directories.length then some (directories.length - 1 - n) else none
      | '+' :: digits => readNat? 10 digits
      | digits => readNat? 10 digits
    match place? with
    | some n => directories[n]?
    | none => homeDirectories.lookup name
  | .common, name => homeDirectories.lookup name

/-- A text with its tildes replaced: the one in front, and with colons those behind them. Of the
last name there must be an end in sight. -/
def tildeWord (fuel : Nat) (machine : Machine) (colons isStart isEnd : Bool) (s : List Char) :
    Word :=
  match fuel with
  | 0 => [.text (String.ofList s) false]
  | fuel + 1 =>
    let plain (s : List Char) : Word :=
      if colons then
        let front := s.takeWhile (· != ':')
        if front.length < s.length then
          withText (front ++ [':']) false
            (tildeWord fuel machine colons true isEnd (s.drop (front.length + 1)))
        else if s.isEmpty then [] else [.text (String.ofList s) false]
      else if s.isEmpty then [] else [.text (String.ofList s) false]
    match s with
    | '~' :: rest =>
      if !isStart then plain s
      else
        let name := rest.takeWhile fun c => c != '/' && (!colons || c != ':')
        if name.length = rest.length && !isEnd then plain s
        else
          match machine.homeOf? (String.ofList name) with
          | some home => .text home true :: plain (rest.drop name.length)
          | none => plain s
    | _ => plain s

/-- A word with its tildes replaced. -/
def withTildes (machine : Machine) (colons : Bool) (word : Word) : Word :=
  go true word
where
  go (isStart : Bool) : Word → Word
    | [] => []
    | .text chars false :: rest =>
      tildeWord (chars.length + 1) machine colons isStart rest.isEmpty chars.toList ++ go false rest
    | segment :: rest => segment :: go false rest

end Runbook.Shell
