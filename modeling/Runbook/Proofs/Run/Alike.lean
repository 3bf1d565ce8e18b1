import Runbook.Proofs.Run.Ending

/-!
# Runs alike

A run goes on and ends by how its commands end and by the state that they leave. What they write has
no part in it, so that runners alike in these two make the same run.
-/

namespace Runbook

namespace Call

/-- A call without what its command wrote. -/
def mute (call : Call) : Call := { call with reply := ⟨call.reply.ending, "", ""⟩ }

@[simp] theorem passed_mute (call : Call) : call.mute.passed = call.passed := rfl

theorem map_mute_cut (calls : List Call) : (cut calls).map mute = cut (calls.map mute) := by
  induction calls with
  | nil => rfl
  | cons call calls ih => cases h : call.passed <;> simp [cut_cons, h, ih]

theorem endingOf_map_mute (calls : List Call) : endingOf (calls.map mute) = endingOf calls := by
  induction calls with
  | nil => rfl
  | cons call calls ih =>
      have ending : call.mute.ending = call.ending := rfl
      simp [endingOf_cons, ih, ending]

theorem results_map_mute (clock : List Binary64) (calls : List Call) :
    results clock (calls.map mute) = results clock calls := by
  induction calls generalizing clock with
  | nil => rfl
  | cons call calls ih =>
      have result : call.mute.result clock = call.result clock := rfl
      have faulted : call.mute.isFaulted = call.isFaulted := rfl
      simp [results, ih, readings, result, faulted]

section Same

variable {calls others : List Call} (same : calls.map mute = others.map mute)
include same

/-- What does not depend on what commands wrote is the same. -/
theorem map_eq_of_mute {α : Type} {f : Call → α} (blind : ∀ call, f call.mute = f call) :
    calls.map f = others.map f := by
  have through (calls : List Call) : calls.map f = (calls.map mute).map f := by simp [blind]
  rw [through calls, same, ← through others]

theorem all_eq_of_mute {p : Call → Bool} (blind : ∀ call, p call.mute = p call) :
    calls.all p = others.all p := by
  have through (calls : List Call) : calls.all p = (calls.map p).all id := by simp
  rw [through calls, map_eq_of_mute same blind, ← through others]

theorem endingOf_eq_of_mute : endingOf calls = endingOf others := by
  rw [← endingOf_map_mute calls, same, endingOf_map_mute others]

theorem results_eq_of_mute (clock : List Binary64) :
    results clock calls = results clock others := by
  rw [← results_map_mute clock calls, same, results_map_mute clock others]

end Same

end Call

namespace Runner

variable {σ : Type} {runner other : Runner σ}

/-- Runners that end a command in the same way and leave the same state behind it. -/
def Alike (runner other : Runner σ) (command : String) : Prop :=
  ∀ state, (runner state command).1.ending = (other state command).1.ending ∧
    (runner state command).2 = (other state command).2

theorem map_mute_calls {agenda : List (Phase × Step)}
    (alike : ∀ item ∈ agenda, Alike runner other item.2.shell) (state : σ) :
    (runner.calls state agenda).map Call.mute = (other.calls state agenda).map Call.mute := by
  induction agenda generalizing state with
  | nil => rfl
  | cons item agenda ih =>
      obtain ⟨phase, step⟩ := item
      obtain ⟨first, rest⟩ := List.forall_mem_cons.mp alike
      obtain ⟨ending, next⟩ := first state
      have head : Call.mute ⟨phase, step, (runner state step.shell).1⟩ =
          Call.mute ⟨phase, step, (other state step.shell).1⟩ := by simp only [Call.mute, ending]
      have tail : (runner.calls (runner state step.shell).2 agenda).map Call.mute =
          (other.calls (other state step.shell).2 agenda).map Call.mute := by
        rw [next]
        exact ih rest _
      simp only [calls, List.map_cons]
      rw [head, tail]

theorem after_eq_of_mute {calls others : List Call}
    (same : calls.map Call.mute = others.map Call.mute)
    (alike : ∀ call ∈ calls, Alike runner other call.step.shell) (state : σ) :
    runner.after state calls = other.after state others := by
  induction calls generalizing others state with
  | nil =>
      obtain rfl : others = [] := by simpa using same.symm
      rfl
  | cons call calls ih =>
      cases others with
      | nil => cases same
      | cons twin others =>
          obtain ⟨head, tail⟩ := List.cons.inj same
          have step : call.step = twin.step := (Call.mk.inj head).2.1
          obtain ⟨first, rest⟩ := List.forall_mem_cons.mp alike
          rw [after_cons, after_cons, ← step, (first state).2]
          exact ih tail rest _

end Runner

namespace Plan

variable {σ : Type} {plan : Plan} {runner other : Runner σ}

theorem mem_allSteps_of_mem_agenda {phases : List Phase} {item : Phase × Step}
    (h : item ∈ plan.agenda phases) : item.2 ∈ plan.allSteps := by
  obtain ⟨phase, -, mem⟩ := List.mem_flatMap.mp h
  obtain ⟨step, stands, rfl⟩ := List.mem_map.mp mem
  exact List.mem_flatMap.mpr ⟨phase, by cases phase <;> decide, stands⟩

theorem mem_allSteps_of_mem_course {state : σ} {call : Call}
    (h : call ∈ plan.course runner state) : call.step ∈ plan.allSteps :=
  (plan.steps_course_sublist runner state).subset (List.mem_map_of_mem h)

section Alike

variable (alike : ∀ step ∈ plan.allSteps, Runner.Alike runner other step.shell)
include alike

theorem map_mute_calls (phases : List Phase) (state : σ) :
    (plan.calls runner phases state).map Call.mute =
      (plan.calls other phases state).map Call.mute := by
  rw [calls, calls, Call.map_mute_cut, Call.map_mute_cut]
  congr 1
  exact Runner.map_mute_calls (fun item mem => alike _ (mem_allSteps_of_mem_agenda mem)) state

theorem map_mute_preparation (state : σ) :
    (plan.preparation runner state).map Call.mute =
      (plan.preparation other state).map Call.mute :=
  map_mute_calls alike [.preInstall] state

theorem all_passed_preparation (state : σ) :
    (plan.preparation runner state).all Call.passed =
      (plan.preparation other state).all Call.passed :=
  Call.all_eq_of_mute (map_mute_preparation alike state) Call.passed_mute

theorem after_preparation (state : σ) :
    runner.after state (plan.preparation runner state) =
      other.after state (plan.preparation other state) := by
  refine Runner.after_eq_of_mute (map_mute_preparation alike state) (fun call mem => ?_) state
  exact alike _ (mem_allSteps_of_mem_course (List.mem_append_left _ (List.mem_append_left _ mem)))

theorem map_mute_protectedCalls (state : σ) :
    (plan.protectedCalls runner state).map Call.mute =
      (plan.protectedCalls other state).map Call.mute := by
  rw [protectedCalls, protectedCalls, all_passed_preparation alike, after_preparation alike]
  split
  · exact map_mute_calls alike ..
  · rfl

theorem after_protectedCalls (state : σ) :
    runner.after state (plan.preparation runner state ++ plan.protectedCalls runner state) =
      other.after state (plan.preparation other state ++ plan.protectedCalls other state) := by
  rw [Runner.after_append, Runner.after_append, after_preparation alike]
  refine Runner.after_eq_of_mute (map_mute_protectedCalls alike state) (fun call mem => ?_) _
  exact alike _ (mem_allSteps_of_mem_course (List.mem_append_left _ (List.mem_append_right _ mem)))

theorem map_mute_cleanup (state : σ) :
    (plan.cleanup runner state).map Call.mute = (plan.cleanup other state).map Call.mute := by
  rw [cleanup, cleanup, all_passed_preparation alike, after_protectedCalls alike]
  split
  · exact map_mute_calls alike ..
  · rfl

theorem map_mute_course (state : σ) :
    (plan.course runner state).map Call.mute = (plan.course other state).map Call.mute := by
  simp only [course, List.map_append]
  rw [map_mute_preparation alike, map_mute_protectedCalls alike, map_mute_cleanup alike]

theorem after_course (state : σ) :
    runner.after state (plan.course runner state) = other.after state (plan.course other state) :=
  Runner.after_eq_of_mute (map_mute_course alike state)
    (fun _ mem => alike _ (mem_allSteps_of_mem_course mem)) state

theorem phasesRun_eq_of_alike (state : σ) :
    plan.phasesRun runner state = plan.phasesRun other state := by
  have tested := Call.all_eq_of_mute (map_mute_protectedCalls alike state)
    (p := fun call => call.passed || call.phase ≠ .createInfrastructure) fun call => rfl
  rw [phasesRun, phasesRun, tested]

end Alike

end Plan

namespace Session

variable {σ : Type}

/-- The commands that were run in a session, each with how it ended. -/
def endings (session : Session σ) : List (String × Ending) :=
  session.calls.map fun call => (call.1, call.2.ending)

/-- Runners alike in the steps of a plan make the same run of it: it ends in the same way, leaves
the same state, and runs the same commands, which end in the same ways. -/
theorem runPlan_alike {plan : Plan} {runner other : Runner σ}
    (alike : ∀ step ∈ plan.allSteps, Runner.Alike runner other step.shell) (showCommands : Bool)
    (environment : List (String × String)) (state : σ) (clock : List Binary64) :
    let session := start state clock (some [])
    let run := session.runPlan runner showCommands plan environment
    let rerun := session.runPlan other showCommands plan environment
    run.1 = rerun.1 ∧ run.2.runnerState = rerun.2.runnerState ∧
      run.2.endings = rerun.2.endings := by
  intro session run rerun
  by_cases complete : plan.absent environment = []
  · have present : plan.missingVars environment = [] := by rwa [plan.missingVars_eq_absent]
    have made := (runPlan_spec runner showCommands plan environment session present).1
    have remade := (runPlan_spec other showCommands plan environment session present).1
    refine ⟨?_, ?_, ?_⟩
    · have prepared := Call.endingOf_eq_of_mute (Plan.map_mute_preparation alike state)
      have guarded := Call.endingOf_eq_of_mute (Plan.map_mute_protectedCalls alike state)
      have closed := Call.endingOf_eq_of_mute (Plan.map_mute_cleanup alike state)
      have recorded := Call.results_eq_of_mute (Plan.map_mute_course alike state) clock
      simp only [run, rerun, session]
      rw [ending_runPlan _ _ _ _ _ _ complete, ending_runPlan _ _ _ _ _ _ complete, prepared,
        guarded, closed, recorded, Plan.phasesRun_eq_of_alike alike]
    · rw [made.runnerState, remade.runnerState]
      exact Plan.after_course alike state
    · have called := Call.map_eq_of_mute (Plan.map_mute_course alike session.runnerState)
        (f := fun call => (call.step.shell, call.reply.ending)) fun call => rfl
      rw [endings, endings, made.calls_eq, remade.calls_eq]
      simpa [Call.exchange, Function.comp_def] using called
  · simp only [run, rerun]
    rw [runPlan_of_absent _ _ _ _ _ complete, runPlan_of_absent _ _ _ _ _ complete]
    exact ⟨rfl, rfl, rfl⟩

end Session

end Runbook
