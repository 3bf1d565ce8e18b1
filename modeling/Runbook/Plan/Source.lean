import Runbook.Document.FrontMatter
import Runbook.Plan.Basic
import Runbook.Schema.Metadata

/-!
# From a document to its plan

A document is a source of a plan if its front matter is a mapping in which the activation key is
the boolean true. The errors are the ways in which it is not.
-/

namespace Runbook

/-- Why a document has no plan. -/
inductive PlanError where
  | notFound (path : String)
  | unreadable (path reason : String)
  | badPath (path : String)
  | badMetadata (file : String)
  | inactive (file : String)
  | invalid (problems : List Problem)
  deriving DecidableEq, Repr

namespace PlanError

/-- The wording of an error; problems and paths that no disk can hold have none. -/
def message : PlanError → String
  | notFound path => "Document not found: " ++ path
  | unreadable path reason => "Could not read " ++ path ++ ": " ++ reason
  | badMetadata file => "Could not parse metadata in " ++ file
  | inactive file => "Markdown file " ++ file ++ " does not have a 'deployDoc: true' metadatum"
  | badPath _ | invalid _ => ""

end PlanError

namespace Plan

/-- The key that must be true in the front matter. -/
def activationKey : String := "deployDoc"

/-- Whether the entries of a front matter make the document a source. -/
def isActive (entries : List (Scalar × Value)) : Bool :=
  match Value.find? (.str activationKey) entries with
  | some value => value.isTrue
  | none => false

/-- The plan of a document with the given text and name. -/
def ofText (text file : String) : Except PlanError Plan :=
  match FrontMatter.copiedEntries? text.toList with
  | none => .error (.badMetadata file)
  | some entries =>
    if isActive entries then
      match Metadata.ofEntries entries with
      | .error problems => .error (.invalid (problems.map (Problem.under "metadata")))
      | .ok metadata => .ok (ofDirectives metadata (Directive.ofText text file))
    else .error (.inactive file)

end Plan

end Runbook
