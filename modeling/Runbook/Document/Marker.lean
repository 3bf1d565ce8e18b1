import Runbook.Text.Line

/-!
# Markers

A marker is a comment that fills its line. Its words are the marker token, a kind, and any number
of parameters.
-/

namespace Runbook

/-- A marker's kind and its parameters. -/
structure Marker where
  kind : String
  params : List String
  deriving DecidableEq, Repr

namespace Marker

/-- The word that makes a comment a marker. -/
def token : List Char := "deploy-doc".toList

/-- The characters between the comment marks that a text starts and ends with. -/
def commentBody? (s : List Char) : Option (List Char) :=
  match s with
  | '<' :: '!' :: '-' :: '-' :: rest =>
    match rest.reverse with
    | '>' :: '-' :: '-' :: body => some body.reverse
    | _ => none
  | _ => none

/-- The marker that a line holds. -/
def read? (line : List Char) : Option Marker :=
  match commentBody? (Text.trim line) with
  | none => none
  | some body =>
    match Text.words body with
    | first :: kind :: params =>
      if first = token then some ⟨String.ofList kind, params.map String.ofList⟩ else none
    | _ => none

end Marker

end Runbook
