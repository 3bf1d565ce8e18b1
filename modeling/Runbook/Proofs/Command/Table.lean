import Runbook.Proofs.Command.Report

/-!
# The table of exit codes

The exit code of a run whose commands meet no fault stands in a table: absent variables come first,
then the phases whose steps fail, in the order in which their failures count.
-/

namespace Runbook

namespace Plan

variable {σ : Type} (plan : Plan) (runner : Runner σ) (state : σ)

/-- Whether a step of some phases fails in a run. -/
def fails (phases : List Phase) : Bool :=
  (plan.course runner state).any fun call => phases.contains call.phase && !call.passed

section Parts

end Parts

variable {plan runner state} {environment : List (String × String)} {clock : List Binary64}

end Plan

namespace Runner

variable {σ : Type} (runner : Runner σ)

/-- The reply of a call is what the runner gives to its command in some state. -/
theorem exists_reply_of_mem_calls {state : σ} {agenda : List (Phase × Step)} {call : Call}
    (h : call ∈ runner.calls state agenda) :
    ∃ before, call.reply = (runner before call.step.shell).1 := by
  induction agenda generalizing state with
  | nil => cases h
  | cons item agenda ih =>
      rw [calls, List.mem_cons] at h
      obtain rfl | h := h
      · exact ⟨state, rfl⟩
      · exact ih h

theorem exists_reply_of_mem_course {plan : Plan} {state : σ} {call : Call}
    (h : call ∈ plan.course runner state) :
    ∃ before, call.reply = (runner before call.step.shell).1 := by
  have part {phases : List Phase} {state : σ} (mem : call ∈ plan.calls runner phases state) :
      ∃ before, call.reply = (runner before call.step.shell).1 :=
    runner.exists_reply_of_mem_calls (List.mem_of_mem_take mem)
  simp only [Plan.course, List.mem_append] at h
  obtain (mem | mem) | mem := h
  · exact part mem
  · have ready := plan.passed_of_mem_protectedCalls runner state mem
    rw [Plan.protectedCalls, if_pos ready] at mem
    exact part mem
  · have ready := plan.passed_of_mem_cleanup runner state mem
    rw [Plan.cleanup, if_pos ready] at mem
    exact part mem

end Runner

end Runbook
