import Runbook.Plan.File

/-!
# Documents without a plan

A document has a plan if its file is readable text, its front matter is a mapping, and the
activation key is true in it. Every other document is invalid, as long as the keys of its front
matter are texts.
-/

namespace Runbook

/-- Whether a key is a text; halves of characters may stand alone in it. -/
def Scalar.isText : Scalar → Bool
  | .str _ | .halved _ => true
  | _ => false

theorem Metadata.keyProblem?_of_isText {key : Scalar} (h : key.isText = true) :
    keyProblem? key = none := by
  cases key <;> first | rfl | cases h

/-- Whether an error is reported, and does not stop the program. -/
def PlanError.isReported : PlanError → Bool
  | notFound _ | unreadable _ _ | badMetadata _ | inactive _ => true
  | badPath _ | invalid _ => false

namespace Plan

variable (disk : Disk) (home : Location) (document : Path)

variable {disk home document}

section Errors

variable (disk home document)

variable {disk home document}

end Errors

end Plan

end Runbook
