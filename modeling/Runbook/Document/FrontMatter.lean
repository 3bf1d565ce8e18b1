import Runbook.Yaml.Document

/-!
# Front matter

The front matter of a document is what stands between the first two fences, which are lines of
three hyphens with nothing but spaces and tabs behind them. It is a mapping in markup.
-/

namespace Runbook.FrontMatter

/-- What follows a fence at the start of the text: its line end and all behind it. -/
def afterFence? (s : List Char) : Option (List Char) :=
  match s with
  | '-' :: '-' :: '-' :: rest =>
    let tail :=
      match rest.dropWhile fun c => c == ' ' || c == '\t' with
      | '\r' :: tail => tail
      | tail => tail
    if tail.head?.all (· == '\n') then some tail else none
  | _ => none

/-- The text before the first fence and the text behind it; `lineStart` says whether the text
starts a line. -/
def splitAtFence (lineStart : Bool) (s : List Char) : Option (List Char × List Char) :=
  match s with
  | [] => none
  | c :: rest =>
    match if lineStart then afterFence? s else none with
    | some tail => some ([], tail)
    | none =>
      (splitAtFence (c == '\n') rest).map fun (before, after) => (c :: before, after)

/-- The text between the first two fences. -/
def region? (text : List Char) : Option (List Char) :=
  match splitAtFence true text with
  | none => none
  | some (_, tail) => (splitAtFence false tail).map Prod.fst

/-- The entries of a value that is a mapping. -/
def mappingEntries? : Value → Option (List (Scalar × Value))
  | .map entries => some entries
  | _ => none

/-- The entries of the front matter, if there is one and it is a mapping. -/
def entries? (text : List Char) : Option (List (Scalar × Value)) :=
  ((region? text).bind (Yaml.document? false)).bind mappingEntries?

/-- The entries of a copy of the front matter. They differ only where the front matter refers to
itself: it then stands whole inside of its copy. -/
def copiedEntries? (text : List Char) : Option (List (Scalar × Value)) :=
  ((region? text).bind (Yaml.document? true)).bind mappingEntries?

end Runbook.FrontMatter
