import Runbook.Disk.Tree
import Runbook.Proofs.Text.Lines

/-!
# Names on a disk

A text without slashes spells a path of one name. A name has at most a certain number of bytes, and
the disk refuses to look for a longer one, whatever stands on it.
-/

namespace Runbook

namespace Path

variable {name : String} (unslashed : '/' ∉ name.toList) (counted : counts name = true)
include unslashed counted

end Path

namespace Disk

end Disk

end Runbook
