import Runbook.Console.Pictures
import Runbook.Text.Letter
import Runbook.Text.Line

/-!
# Codes of pictures

A name between two colons stands for a picture. A hyphen and one of two words at the end of the
name choose the form of the picture. A name that is not known stays as it is.
-/

namespace Runbook.Console

/-- The forms of a picture by the words that choose them. -/
def pictureForms : List (List Char × List Char) :=
  [("-emoji".toList, ['\uFE0F']), ("-text".toList, ['\uFE0E'])]

/-- The name in a code and the form that it chooses. -/
def splitForm (name : List Char) : List Char × List Char :=
  match pictureForms.find? fun form => form.1.isSuffixOf name with
  | some (word, form) => (name.take (name.length - word.length), form)
  | none => (name, [])

/-- The picture that the name in a code stands for. -/
def picture? (name : List Char) : Option (List Char) :=
  let (name, form) := splitForm name
  (pictures.lookup (String.ofList (Text.lower name))).map (· ++ form)

/-- The name up to the next colon, if no blank is before it, and the text behind the colon. -/
def codeName? (s : List Char) : Option (List Char × List Char) :=
  let name := s.takeWhile fun c => c != ':' && !Text.isBlank c
  match s.drop name.length with
  | ':' :: rest => some (name, rest)
  | _ => none

theorem length_codeName? {s name rest : List Char} (h : codeName? s = some (name, rest)) :
    rest.length < s.length := by
  unfold codeName? at h
  dsimp only at h
  split at h
  · next tail hd =>
    cases h
    have := congrArg List.length hd
    simp only [List.length_drop, List.length_cons] at this
    omega
  · cases h

/-- The text with its codes replaced by pictures. -/
def replaceCodes (s : List Char) : List Char :=
  match s with
  | [] => []
  | c :: rest =>
    if c == ':' then
      match h : codeName? rest with
      | some (name, after) =>
        have := length_codeName? h
        (picture? name).getD (':' :: name ++ [':']) ++ replaceCodes after
      | none => c :: replaceCodes rest
    else c :: replaceCodes rest
termination_by s.length
decreasing_by all_goals simp only [List.length_cons]; omega

end Runbook.Console
