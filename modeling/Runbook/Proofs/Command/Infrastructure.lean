import Runbook.Proofs.Command.Exit
import Runbook.Proofs.Plan.Commands

/-!
# What an exit code tells of the infrastructure

A run that exits with one has failed and cleaned up, or it was stopped by what it is not prepared
for. A run that exits with two has failed to clean up, or its command line is misused.
-/

namespace Runbook

namespace Plan

variable {σ : Type} {plan : Plan} {environment : List (String × String)} {runner : Runner σ}
  {state : σ} {clock : List Binary64} {ending : RunEnding}

theorem Ends.complete (ends : plan.Ends environment runner state clock ending)
    (h : ending.verdict.exitCode ≠ 3) : plan.absent environment = [] := by
  cases ends with
  | missing lacking => exact absurd rfl h
  | _ => assumption

end Plan

namespace Command

theorem Invocation.mem_of_ofShared? {line : Line SharedKey} {invocation : Invocation}
    (h : ofShared? line = some invocation) : invocation ∈ [version, help] := by
  obtain ⟨key, -, rfl⟩ := Option.map_eq_some_iff.mp h
  split <;> simp

namespace World

variable (world : World) (arguments : List String)

section Judged

variable {world arguments} {manner : Manner} {document config : Path} {dry : Bool}

end Judged

end World

end Command

end Runbook
