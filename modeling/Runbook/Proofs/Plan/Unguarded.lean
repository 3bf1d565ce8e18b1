import Runbook.Proofs.Plan.Invalid

/-!
# Documents whose error is not reported

An error of a document is reported, unless the disk refuses to look for the document, or the front
matter of an active document has a key that cannot serve as a text. These two are the only ones.
-/

namespace Runbook

namespace Plan

variable {disk : Disk} {home : Location} {document : Path}

end Plan

end Runbook
