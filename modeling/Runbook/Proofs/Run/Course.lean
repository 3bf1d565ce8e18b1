import Runbook.Proofs.Run.Trace

/-!
# The course of a run

A run has three parts. The preparation may stop it; behind a preparation that passed, the protected
phases run up to the first call that does not pass, and the cleanup follows whatever came of them.
The calls of each part are given by the plan and the runner alone, and what a run leaves and how it
ends is read off these calls.
-/

namespace Runbook

namespace Plan

variable {σ : Type}

/-- The calls of the preparation. -/
def preparation (plan : Plan) (runner : Runner σ) (state : σ) : List Call :=
  plan.calls runner [.preInstall] state

/-- The calls of the protected phases; a preparation that stopped leaves none. -/
def protectedCalls (plan : Plan) (runner : Runner σ) (state : σ) : List Call :=
  if (plan.preparation runner state).all Call.passed then
    plan.calls runner Phase.protectedPhases (runner.after state (plan.preparation runner state))
  else []

/-- The calls of the cleanup; a preparation that stopped leaves none. -/
def cleanup (plan : Plan) (runner : Runner σ) (state : σ) : List Call :=
  if (plan.preparation runner state).all Call.passed then
    plan.calls runner [.destroyInfrastructure]
      (runner.after state (plan.preparation runner state ++ plan.protectedCalls runner state))
  else []

/-- All calls of a run, in order. -/
def course (plan : Plan) (runner : Runner σ) (state : σ) : List Call :=
  plan.preparation runner state ++ plan.protectedCalls runner state ++ plan.cleanup runner state

/-- The phases that a run attempts when its preparation passes: the tests are left out behind a
creation that failed. -/
def phasesRun (plan : Plan) (runner : Runner σ) (state : σ) : List Phase :=
  [.preInstall, .createInfrastructure] ++
    (if (plan.protectedCalls runner state).all fun call =>
        call.passed || call.phase ≠ .createInfrastructure
      then [.runTests] else []) ++
    [.destroyInfrastructure]

section Parts

variable (plan : Plan) (runner : Runner σ) (state : σ)

theorem cut_preparation :
    Call.cut (plan.preparation runner state) = plan.preparation runner state := Call.cut_cut _

theorem cut_protectedCalls :
    Call.cut (plan.protectedCalls runner state) = plan.protectedCalls runner state := by
  unfold protectedCalls
  split
  · exact Call.cut_cut _
  · rfl

theorem cut_cleanup : Call.cut (plan.cleanup runner state) = plan.cleanup runner state := by
  unfold cleanup
  split
  · exact Call.cut_cut _
  · rfl

/-- A call of the protected phases stands behind a preparation that passed. -/
theorem passed_of_mem_protectedCalls {call : Call} (h : call ∈ plan.protectedCalls runner state) :
    (plan.preparation runner state).all Call.passed = true := by
  unfold protectedCalls at h
  split at h
  · assumption
  · cases h

/-- A call of the cleanup stands behind a preparation that passed. -/
theorem passed_of_mem_cleanup {call : Call} (h : call ∈ plan.cleanup runner state) :
    (plan.preparation runner state).all Call.passed = true := by
  unfold cleanup at h
  split at h
  · assumption
  · cases h

theorem phase_of_mem_preparation {call : Call} (h : call ∈ plan.preparation runner state) :
    call.phase = .preInstall := by
  simpa using plan.phase_mem_of_mem_calls runner _ _ h

theorem phase_of_mem_protectedCalls {call : Call} (h : call ∈ plan.protectedCalls runner state) :
    call.phase ∈ Phase.protectedPhases := by
  have hp := plan.passed_of_mem_protectedCalls runner state h
  rw [protectedCalls, if_pos hp] at h
  exact plan.phase_mem_of_mem_calls runner _ _ h

theorem phase_of_mem_cleanup {call : Call} (h : call ∈ plan.cleanup runner state) :
    call.phase = .destroyInfrastructure := by
  have hp := plan.passed_of_mem_cleanup runner state h
  rw [cleanup, if_pos hp] at h
  simpa using plan.phase_mem_of_mem_calls runner _ _ h

end Parts

theorem course_of_stopped {plan : Plan} {runner : Runner σ} {state : σ}
    (h : (plan.preparation runner state).all Call.passed = false) :
    plan.course runner state = plan.preparation runner state ∧
      plan.protectedCalls runner state = [] ∧ plan.cleanup runner state = [] := by
  simp [course, protectedCalls, cleanup, h]

end Plan

/-- The ending of a run whose parts ended in the given ways. -/
def RunEnding.ofParts (preparation guarded cleanup : PhaseEnding) (phasesRun : List Phase)
    (steps : List StepResult) : RunEnding :=
  match preparation, cleanup, guarded with
  | .failed error, _, _ => .preparationFailed error
  | .faulted fault, _, _ => .faulted fault
  | .completed, .failed error, _ => .cleanupFailed error
  | .completed, .faulted fault, _ => .faulted fault
  | .completed, .completed, .faulted fault => .faulted fault
  | .completed, .completed, .failed error =>
    .completed ⟨.failed, phasesRun, steps, some error.message⟩
  | .completed, .completed, .completed => .completed ⟨.succeeded, phasesRun, steps, none⟩

namespace Session

variable {σ : Type}

/-- Phases in order make the calls of their steps up to the first one that does not pass. -/
theorem runs_runPhases (runner : Runner σ) (showCommands : Bool) (plan : Plan)
    (phases : List Phase) (session : Session σ) :
    Runs runner session (plan.calls runner phases session.runnerState)
      ((session.runPhases runner showCommands plan phases).1,
        (session.runPhases runner showCommands plan phases).2.2) := by
  induction phases generalizing session with
  | nil => exact ⟨rfl, Makes.refl runner session⟩
  | cons phase phases ih =>
      have first := runs_runPhase runner showCommands plan phase session
      have second := Runs.andThen _ (fun middle =>
        ((middle.runPhases runner showCommands plan phases).1,
          (middle.runPhases runner showCommands plan phases).2.2)) first (ih _)
      rw [first.makes.runnerState, ← Plan.calls_cons] at second
      rw [runPhases]
      generalize session.runPhase runner showCommands plan phase = part at second
      obtain ⟨ending, middle⟩ := part
      cases ending with
      | completed => exact second
      | failed error => exact second
      | faulted fault => exact second

/-- The next phase is attempted behind a phase whose calls all pass. -/
theorem attempted_cons (runner : Runner σ) (showCommands : Bool) (plan : Plan) (phase : Phase)
    (phases : List Phase) (session : Session σ) :
    (session.runPhases runner showCommands plan (phase :: phases)).2.1 =
      phase ::
        if (plan.calls runner [phase] session.runnerState).all Call.passed then
          ((session.runPhase runner showCommands plan phase).2.runPhases runner showCommands plan
            phases).2.1
        else [] := by
  have hc := (runs_runPhase runner showCommands plan phase session).completed_iff
  rw [runPhases]
  generalize session.runPhase runner showCommands plan phase = part at hc
  obtain ⟨ending, middle⟩ := part
  cases ending with
  | completed => simp [hc.mp rfl]
  | failed error => simp [← hc]
  | faulted fault => simp [← hc]

theorem makes_report (runner : Runner σ) (ending : PhaseEnding) (session : Session σ) :
    Makes runner session [] (session.report ending) := by
  cases ending with
  | completed => exact Makes.refl runner session
  | failed error => exact (Makes.refl runner session).log ..
  | faulted fault => exact Makes.refl runner session

/-- The cleanup is run whatever came of the protected phases, and outweighs it if it stops. -/
theorem cleanUp_spec (runner : Runner σ) (showCommands : Bool) (plan : Plan)
    (ending : PhaseEnding) (attempted : List Phase) (session : Session σ) :
    let calls := plan.calls runner [.destroyInfrastructure] session.runnerState
    let run := session.cleanUp runner showCommands plan ending attempted
    Makes runner session calls run.2 ∧
      run.1 = RunEnding.ofParts .completed ending (Call.endingOf calls)
        (.preInstall :: attempted ++ [.destroyInfrastructure]) (run.2.record.getD []) := by
  intro calls run
  have reported := makes_report runner ending session
  have last := runs_runPhase runner showCommands plan .destroyInfrastructure
    (session.report ending)
  rw [reported.runnerState, Runner.after_nil] at last
  have made : Makes runner session calls _ := reported.trans last.makes
  simp only [run, cleanUp, calls, ← last.ending]
  generalize (session.report ending).runPhase runner showCommands plan .destroyInfrastructure =
    part at made
  obtain ⟨closing, later⟩ := part
  cases closing with
  | failed error => exact ⟨made.log .., rfl⟩
  | faulted fault => exact ⟨made, rfl⟩
  | completed =>
      cases ending with
      | completed => exact ⟨made, rfl⟩
      | failed error => exact ⟨made, rfl⟩
      | faulted fault => exact ⟨made, rfl⟩

/-- The tests are attempted unless a call of the creation does not pass. -/
theorem attempted_protectedPhases (runner : Runner σ) (showCommands : Bool) (plan : Plan)
    (session : Session σ) :
    (session.runPhases runner showCommands plan Phase.protectedPhases).2.1 =
      .createInfrastructure ::
        if (plan.calls runner Phase.protectedPhases session.runnerState).all fun call =>
          call.passed || call.phase ≠ .createInfrastructure
        then [.runTests] else [] := by
  have creation : ∀ call ∈ plan.calls runner [.createInfrastructure] session.runnerState,
      call.phase = .createInfrastructure := fun call hm => by
    simpa using plan.phase_mem_of_mem_calls runner _ _ hm
  rw [Phase.protectedPhases, attempted_cons,
    plan.calls_cons runner .createInfrastructure [.runTests] session.runnerState]
  -- A creation that stopped holds the call that leaves the tests out.
  cases h : (plan.calls runner [.createInfrastructure] session.runnerState).all Call.passed with
  | true =>
      have tests : ∀ state, ∀ call ∈ plan.calls runner [.runTests] state,
          call.phase ≠ .createInfrastructure := fun state call hm => by
        simp [show call.phase = .runTests by
          simpa using plan.phase_mem_of_mem_calls runner _ _ hm]
      have hall := List.all_eq_true.mp h
      rw [if_pos rfl, if_pos rfl, attempted_cons, runPhases, ite_self, if_pos]
      simp only [List.all_append, Bool.and_eq_true, List.all_eq_true, Bool.or_eq_true,
        decide_eq_true_eq]
      exact ⟨fun call hm => Or.inl (hall call hm), fun call hm => Or.inr (tests _ call hm)⟩
  | false =>
      obtain ⟨call, hm, hp⟩ := List.all_eq_false.mp h
      rw [if_neg Bool.false_ne_true, if_neg Bool.false_ne_true, List.append_nil, if_neg]
      rw [List.all_eq_true]
      intro hall
      have := hall call hm
      simp [hp, creation call hm] at this

/-- Behind a preparation that passed, the protected phases and the cleanup make their calls, and the
run ends as these tell. -/
theorem guarded_spec (runner : Runner σ) (showCommands : Bool) (plan : Plan)
    (session : Session σ) :
    let guarded := plan.calls runner Phase.protectedPhases session.runnerState
    let cleanup :=
      plan.calls runner [.destroyInfrastructure] (runner.after session.runnerState guarded)
    let part := session.runPhases runner showCommands plan Phase.protectedPhases
    let run := part.2.2.cleanUp runner showCommands plan part.1 part.2.1
    Makes runner session (guarded ++ cleanup) run.2 ∧
      run.1 = RunEnding.ofParts .completed (Call.endingOf guarded) (Call.endingOf cleanup)
        ([.preInstall, .createInfrastructure] ++
          (if guarded.all fun call => call.passed || call.phase ≠ .createInfrastructure
            then [.runTests] else []) ++ [.destroyInfrastructure])
        (run.2.record.getD []) := by
  intro guarded cleanup part run
  have first := runs_runPhases runner showCommands plan Phase.protectedPhases session
  have ending : part.1 = Call.endingOf guarded := first.ending
  have attempted : part.2.1 = _ := attempted_protectedPhases runner showCommands plan session
  have phases : .preInstall :: part.2.1 ++ [.destroyInfrastructure] =
      [.preInstall, .createInfrastructure] ++
        (if guarded.all fun call => call.passed || call.phase ≠ .createInfrastructure
          then [.runTests] else []) ++ [.destroyInfrastructure] := by
    rw [attempted]
    rfl
  obtain ⟨made, closed⟩ := cleanUp_spec runner showCommands plan part.1 part.2.1 part.2.2
  rw [first.makes.runnerState] at made closed
  refine ⟨first.makes.trans made, ?_⟩
  rw [← ending, ← phases]
  exact closed

/-- A run makes the calls of its course and ends as its three parts tell. -/
theorem runPlan_spec (runner : Runner σ) (showCommands : Bool) (plan : Plan)
    (environment : List (String × String)) (session : Session σ)
    (h : plan.missingVars environment = []) :
    let state := session.runnerState
    let run := session.runPlan runner showCommands plan environment
    Makes runner session (plan.course runner state) run.2 ∧
      run.1 = RunEnding.ofParts (Call.endingOf (plan.preparation runner state))
        (Call.endingOf (plan.protectedCalls runner state))
        (Call.endingOf (plan.cleanup runner state)) (plan.phasesRun runner state)
        (run.2.record.getD []) := by
  intro state run
  have first := runs_runPhase runner showCommands plan .preInstall session
  have hrun : run = session.runPlan runner showCommands plan environment := rfl
  rw [runPlan, h] at hrun
  simp only at hrun
  have hc := first.completed_iff
  have he := first.ending
  generalize session.runPhase runner showCommands plan .preInstall = part at first hrun hc he
  obtain ⟨ending, prepared⟩ := part
  change ending = Call.endingOf (plan.preparation runner state) at he
  cases hp : (plan.preparation runner state).all Call.passed with
  | false =>
      obtain ⟨hcourse, -, -⟩ := Plan.course_of_stopped hp
      rw [hcourse, ← he]
      cases ending with
      | completed => exact absurd (hc.mp rfl) (by simpa [Plan.preparation] using hp)
      | failed error => exact ⟨by rw [hrun]; exact first.makes, by rw [hrun]; rfl⟩
      | faulted fault => exact ⟨by rw [hrun]; exact first.makes, by rw [hrun]; rfl⟩
  | true =>
      obtain rfl : ending = .completed := hc.mpr hp
      obtain ⟨made, ended⟩ := guarded_spec runner showCommands plan prepared
      have hprotected : plan.protectedCalls runner state =
          plan.calls runner Phase.protectedPhases prepared.runnerState := by
        rw [Plan.protectedCalls, hp, if_pos rfl, first.makes.runnerState]
        rfl
      have hcleanup : plan.cleanup runner state =
          plan.calls runner [.destroyInfrastructure] (runner.after prepared.runnerState
            (plan.protectedCalls runner state)) := by
        rw [Plan.cleanup, hp, if_pos rfl, Runner.after_append, first.makes.runnerState]
        rfl
      rw [← hprotected, ← hcleanup] at made ended
      rw [← he, hrun, Plan.course, List.append_assoc]
      exact ⟨first.makes.trans made, ended⟩

end Session

end Runbook
