import Runbook.Proofs.Run.Cleanup

/-!
# The ending of a run

Which of its endings a run comes to is decided by the variables that are absent and by the calls of
its three parts. A preparation that stops decides before the cleanup, and a cleanup that stops
outweighs whatever the protected phases came to.
-/

namespace Runbook

namespace RunEnding

variable {preparation guarded cleanup : PhaseEnding} {phasesRun : List Phase}
  {steps : List StepResult}

theorem ofParts_eq_preparationFailed_iff {error : StepError} :
    ofParts preparation guarded cleanup phasesRun steps = .preparationFailed error ↔
      preparation = .failed error := by
  cases preparation <;> cases cleanup <;> cases guarded <;> simp [ofParts]

theorem ofParts_eq_cleanupFailed_iff {error : StepError} :
    ofParts preparation guarded cleanup phasesRun steps = .cleanupFailed error ↔
      preparation = .completed ∧ cleanup = .failed error := by
  cases preparation <;> cases cleanup <;> cases guarded <;> simp [ofParts]

theorem ofParts_eq_faulted_iff {fault : Fault} :
    ofParts preparation guarded cleanup phasesRun steps = .faulted fault ↔
      preparation = .faulted fault ∨
        preparation = .completed ∧
          (cleanup = .faulted fault ∨ cleanup = .completed ∧ guarded = .faulted fault) := by
  cases preparation <;> cases cleanup <;> cases guarded <;> simp [ofParts]

theorem ofParts_eq_completed_iff {result : RunResult} :
    ofParts preparation guarded cleanup phasesRun steps = .completed result ↔
      preparation = .completed ∧ cleanup = .completed ∧
        (guarded = .completed ∧ result = ⟨.succeeded, phasesRun, steps, none⟩ ∨
          ∃ error, guarded = .failed error ∧
            result = ⟨.failed, phasesRun, steps, some error.message⟩) := by
  cases preparation <;> cases cleanup <;> cases guarded <;> simp [ofParts, eq_comm]

end RunEnding

namespace Plan

variable {σ : Type}

/-- The required names that an environment does not bind, in order and with repetitions. -/
def absent (plan : Plan) (environment : List (String × String)) : List String :=
  plan.requiredVars.filter fun name => name ∉ environment.map Prod.fst

section Ways

variable (plan : Plan) (environment : List (String × String)) (runner : Runner σ) (state : σ)
  (clock : List Binary64)

/-- The ways in which a run of a plan ends, each with the condition that decides for it. -/
inductive Ends : RunEnding → Prop
  | missing (lacking : plan.absent environment ≠ []) :
    Ends (.missing (plan.absent environment))
  | preparationFailed {call : Call} {error : StepError} (complete : plan.absent environment = [])
    (mem : call ∈ plan.preparation runner state) (fails : call.FailsWith error) :
    Ends (.preparationFailed error)
  | preparationFaulted {call : Call} {fault : Fault} (complete : plan.absent environment = [])
    (mem : call ∈ plan.preparation runner state) (faults : call.reply.ending = .faulted fault) :
    Ends (.faulted fault)
  | cleanupFailed {call : Call} {error : StepError} (complete : plan.absent environment = [])
    (prepared : ∀ call ∈ plan.preparation runner state, call.passed = true)
    (mem : call ∈ plan.cleanup runner state) (fails : call.FailsWith error) :
    Ends (.cleanupFailed error)
  | cleanupFaulted {call : Call} {fault : Fault} (complete : plan.absent environment = [])
    (prepared : ∀ call ∈ plan.preparation runner state, call.passed = true)
    (mem : call ∈ plan.cleanup runner state) (faults : call.reply.ending = .faulted fault) :
    Ends (.faulted fault)
  | protectedFaulted {call : Call} {fault : Fault} (complete : plan.absent environment = [])
    (prepared : ∀ call ∈ plan.preparation runner state, call.passed = true)
    (closed : ∀ call ∈ plan.cleanup runner state, call.passed = true)
    (mem : call ∈ plan.protectedCalls runner state)
    (faults : call.reply.ending = .faulted fault) :
    Ends (.faulted fault)
  | protectedFailed {call : Call} {error : StepError} (complete : plan.absent environment = [])
    (prepared : ∀ call ∈ plan.preparation runner state, call.passed = true)
    (closed : ∀ call ∈ plan.cleanup runner state, call.passed = true)
    (mem : call ∈ plan.protectedCalls runner state) (fails : call.FailsWith error) :
    Ends (.completed ⟨.failed, plan.phasesRun runner state,
      Call.results clock (plan.course runner state), some error.message⟩)
  | succeeded (complete : plan.absent environment = [])
    (passed : ∀ call ∈ plan.course runner state, call.passed = true) :
    Ends (.completed ⟨.succeeded, plan.phasesRun runner state,
      Call.results clock (plan.course runner state), none⟩)

end Ways

theorem missingVars_eq_absent (plan : Plan) (environment : List (String × String)) :
    plan.missingVars environment = plan.absent environment := by
  unfold missingVars absent
  congr 1
  funext name
  rw [Bool.eq_iff_iff]
  simp only [Bool.not_eq_true', List.any_eq_false, decide_eq_true_eq, List.mem_map, not_exists,
    not_and]

end Plan

namespace Session

variable {σ : Type}

/-- In a complete environment the endings of the three parts decide. -/
theorem ending_runPlan (runner : Runner σ) (showCommands : Bool) (plan : Plan)
    (environment : List (String × String)) (state : σ) (clock : List Binary64)
    (h : plan.absent environment = []) :
    ((start state clock (some [])).runPlan runner showCommands plan environment).1 =
      .ofParts (Call.endingOf (plan.preparation runner state))
        (Call.endingOf (plan.protectedCalls runner state))
        (Call.endingOf (plan.cleanup runner state)) (plan.phasesRun runner state)
        (Call.results clock (plan.course runner state)) := by
  rw [← plan.missingVars_eq_absent] at h
  obtain ⟨made, ends⟩ := runPlan_spec runner showCommands plan environment
    (start state clock (some [])) h
  rw [made.record] at ends
  exact ends

/-- A run in an incomplete environment neither calls the runner nor logs anything. -/
theorem runPlan_of_absent (runner : Runner σ) (showCommands : Bool) (plan : Plan)
    (environment : List (String × String)) (session : Session σ)
    (h : plan.absent environment ≠ []) :
    session.runPlan runner showCommands plan environment =
      (.missing (plan.absent environment), session) := by
  rw [runPlan, plan.missingVars_eq_absent]
  cases ha : plan.absent environment with
  | nil => exact absurd ha h
  | cons name names => rfl

section Decision

variable (runner : Runner σ) (showCommands : Bool) (plan : Plan)
  (environment : List (String × String)) (state : σ) (clock : List Binary64)

/-- Some way of ending applies to every run. -/
theorem ends_runPlan :
    plan.Ends environment runner state clock
      ((start state clock (some [])).runPlan runner showCommands plan environment).1 := by
  by_cases h : plan.absent environment = []
  · rw [ending_runPlan runner showCommands plan environment state clock h]
    cases hp : Call.endingOf (plan.preparation runner state) with
    | failed error =>
        obtain ⟨call, mem, fails⟩ :=
          (Call.endingOf_eq_failed_iff (plan.cut_preparation runner state) error).mp hp
        exact .preparationFailed h mem fails
    | faulted fault =>
        obtain ⟨call, mem, faults⟩ :=
          (Call.endingOf_eq_faulted_iff (plan.cut_preparation runner state) fault).mp hp
        exact .preparationFaulted h mem faults
    | completed =>
        have prepared := (Call.endingOf_eq_completed_iff _).mp hp
        cases hc : Call.endingOf (plan.cleanup runner state) with
        | failed error =>
            obtain ⟨call, mem, fails⟩ :=
              (Call.endingOf_eq_failed_iff (plan.cut_cleanup runner state) error).mp hc
            exact .cleanupFailed h prepared mem fails
        | faulted fault =>
            obtain ⟨call, mem, faults⟩ :=
              (Call.endingOf_eq_faulted_iff (plan.cut_cleanup runner state) fault).mp hc
            exact .cleanupFaulted h prepared mem faults
        | completed =>
            have closed := (Call.endingOf_eq_completed_iff _).mp hc
            cases hg : Call.endingOf (plan.protectedCalls runner state) with
            | failed error =>
                obtain ⟨call, mem, fails⟩ :=
                  (Call.endingOf_eq_failed_iff (plan.cut_protectedCalls runner state) error).mp hg
                exact .protectedFailed h prepared closed mem fails
            | faulted fault =>
                obtain ⟨call, mem, faults⟩ :=
                  (Call.endingOf_eq_faulted_iff (plan.cut_protectedCalls runner state) fault).mp hg
                exact .protectedFaulted h prepared closed mem faults
            | completed =>
                have guarded := (Call.endingOf_eq_completed_iff _).mp hg
                refine .succeeded h fun call mem => ?_
                simp only [Plan.course, List.mem_append] at mem
                obtain (mem | mem) | mem := mem
                · exact prepared call mem
                · exact guarded call mem
                · exact closed call mem
  · rw [runPlan_of_absent runner showCommands plan environment _ h]
    exact .missing h

/-- A way whose condition holds is the one in which the run ends. -/
theorem runPlan_of_ends {ending : RunEnding} (h : plan.Ends environment runner state clock ending) :
    ((start state clock (some [])).runPlan runner showCommands plan environment).1 = ending := by
  have ends := ending_runPlan runner showCommands plan environment state clock
  have completed := Call.endingOf_eq_completed_iff
  cases h with
  | missing lacking => rw [runPlan_of_absent runner showCommands plan environment _ lacking]
  | preparationFailed complete mem fails =>
      rw [ends complete, RunEnding.ofParts_eq_preparationFailed_iff,
        Call.endingOf_eq_failed_iff (plan.cut_preparation runner state)]
      exact ⟨_, mem, fails⟩
  | preparationFaulted complete mem faults =>
      rw [ends complete, RunEnding.ofParts_eq_faulted_iff,
        Call.endingOf_eq_faulted_iff (plan.cut_preparation runner state)]
      exact Or.inl ⟨_, mem, faults⟩
  | cleanupFailed complete prepared mem fails =>
      rw [ends complete, RunEnding.ofParts_eq_cleanupFailed_iff, completed,
        Call.endingOf_eq_failed_iff (plan.cut_cleanup runner state)]
      exact ⟨prepared, _, mem, fails⟩
  | cleanupFaulted complete prepared mem faults =>
      rw [ends complete, RunEnding.ofParts_eq_faulted_iff, completed,
        Call.endingOf_eq_faulted_iff (plan.cut_cleanup runner state)]
      exact Or.inr ⟨prepared, Or.inl ⟨_, mem, faults⟩⟩
  | protectedFaulted complete prepared closed mem faults =>
      rw [ends complete, RunEnding.ofParts_eq_faulted_iff, completed, completed,
        Call.endingOf_eq_faulted_iff (plan.cut_protectedCalls runner state)]
      exact Or.inr ⟨prepared, Or.inr ⟨closed, _, mem, faults⟩⟩
  | protectedFailed complete prepared closed mem fails =>
      rw [ends complete, RunEnding.ofParts_eq_completed_iff, completed, completed]
      have failed := (Call.endingOf_eq_failed_iff (plan.cut_protectedCalls runner state) _).mpr
        ⟨_, mem, fails⟩
      exact ⟨prepared, closed, Or.inr ⟨_, failed, rfl⟩⟩
  | succeeded complete passed =>
      rw [ends complete, RunEnding.ofParts_eq_completed_iff, completed, completed, completed]
      simp only [Plan.course, List.mem_append] at passed
      exact ⟨fun call mem => passed call (Or.inl (Or.inl mem)),
        fun call mem => passed call (Or.inr mem),
        Or.inl ⟨fun call mem => passed call (Or.inl (Or.inr mem)), rfl⟩⟩

/-- A run ends in exactly the way whose condition holds, and an error of the preparation or of the
cleanup carries that phase. Without a required variable a run calls and logs nothing, and behind a
preparation that stopped it calls nothing more. -/
theorem runPlan_eq_iff_ends (ending : RunEnding) :
    let session := start state clock (some [])
    let run := session.runPlan runner showCommands plan environment
    (run.1 = ending ↔ plan.Ends environment runner state clock ending) ∧
      (∀ error, run.1 = .preparationFailed error → error.phase = .preInstall) ∧
      (∀ error, run.1 = .cleanupFailed error → error.phase = .destroyInfrastructure) ∧
      (plan.absent environment ≠ [] → run.2 = session) ∧
      (plan.absent environment = [] →
        (∃ call ∈ plan.preparation runner state, call.passed = false) →
          run.2.calls = (plan.preparation runner state).map Call.exchange) := by
  intro session run
  have ends : plan.Ends environment runner state clock run.1 :=
    ends_runPlan runner showCommands plan environment state clock
  refine ⟨⟨?_, ?_⟩, ?_, ?_, ?_, ?_⟩
  · rintro rfl
    exact ends
  · exact runPlan_of_ends runner showCommands plan environment state clock
  · intro error failed
    rw [failed] at ends
    cases ends with
    | preparationFailed complete mem fails =>
        rw [fails.phase_eq, plan.phase_of_mem_preparation runner state mem]
  · intro error failed
    rw [failed] at ends
    cases ends with
    | cleanupFailed complete prepared mem fails =>
        rw [fails.phase_eq, plan.phase_of_mem_cleanup runner state mem]
  · intro h
    exact congrArg Prod.snd (runPlan_of_absent runner showCommands plan environment session h)
  · intro h hp
    rw [← plan.missingVars_eq_absent] at h
    have made := (runPlan_spec runner showCommands plan environment session h).1
    have stopped : (plan.preparation runner state).all Call.passed = false := by
      simpa [List.all_eq_false] using hp
    have course : plan.course runner session.runnerState = plan.preparation runner state :=
      (Plan.course_of_stopped stopped).1
    rw [course] at made
    exact made.calls_eq

end Decision

end Session

end Runbook
