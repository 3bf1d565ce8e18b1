import Runbook.Proofs.Run.Ending

/-!
# The record of a run

The result of a run that reached the end of its cleanup is a faithful record: one entry for each
call in order, with the two clock readings around it, and a failure that names the one call that
did not pass.
-/

namespace Runbook

namespace Call

/-- The record of the call at a position when no call before it was a fault. -/
def recordAt (clock : List Binary64) (n : Nat) (call : Call) : StepResult :=
  ⟨call.phase, call.step.identity, call.exitCode?,
    elapsedMs (reading clock (2 * n)) (reading clock (2 * n + 1))⟩

@[simp] theorem phase_recordAt (clock : List Binary64) (n : Nat) (call : Call) :
    (call.recordAt clock n).phase = call.phase := rfl

@[simp] theorem passed_recordAt (clock : List Binary64) (n : Nat) (call : Call) :
    (call.recordAt clock n).passed = call.passed := by
  unfold recordAt StepResult.passed passed exitCode?
  cases h : call.reply.ending <;> simp

/-- The records behind a call read a clock from which two readings were taken. -/
theorem recordAt_drop (clock : List Binary64) :
    recordAt (clock.drop 2) = fun n => recordAt clock (n + 1) := by
  funext n call
  have first : 2 + 2 * n = 2 * (n + 1) := by omega
  have second : 2 + (2 * n + 1) = 2 * (n + 1) + 1 := by omega
  simp only [recordAt, reading_drop, first, second]

/-- Calls without a fault take two readings each. -/
theorem results_eq_mapIdx {calls : List Call} (h : ∀ call ∈ calls, call.isFaulted = false)
    (clock : List Binary64) : results clock calls = calls.mapIdx (recordAt clock) := by
  induction calls generalizing clock with
  | nil => rfl
  | cons call calls ih =>
      have hc : call.isFaulted = false := h call (by simp)
      have ht : ∀ call ∈ calls, call.isFaulted = false := fun c hm => h c (by simp [hm])
      have head : result clock call = recordAt clock 0 call := rfl
      simp [results, readings, hc, ih ht, List.mapIdx_cons, recordAt_drop, head]

/-- The one call of a cut that does not pass is the last. -/
theorem eq_append_singleton_of_mem {calls : List Call} (hcut : cut calls = calls) {call : Call}
    (hm : call ∈ calls) (hp : call.passed = false) :
    ∃ before, calls = before ++ [call] ∧ ∀ other ∈ before, other.passed = true := by
  induction calls with
  | nil => cases hm
  | cons first calls ih =>
      cases h : first.passed with
      | true =>
          have ht : cut calls = calls := by simpa [cut_cons, h] using hcut
          have hne : call ≠ first := by
            rintro rfl
            simp [h] at hp
          obtain ⟨before, rfl, hb⟩ := ih ht ((List.mem_cons.mp hm).resolve_left hne)
          exact ⟨first :: before, rfl, by simpa [h] using hb⟩
      | false =>
          obtain rfl : calls = [] := by simpa [cut_cons, h] using hcut.symm
          obtain rfl : call = first := by simpa using hm
          exact ⟨[], rfl, by simp⟩

/-- What is said of a call that did not pass: the reason if there is one, or else its status. -/
def detail (call : Call) : String :=
  match call.reply.ending with
  | .exited status => "exit status " ++ decimalText status
  | .notStarted reason => if reason = "" then "exit status None" else reason
  | .faulted _ => ""

theorem FailsWith.detail_eq {call : Call} {error : StepError} (h : call.FailsWith error) :
    error.failure.detail = call.detail := by
  obtain ⟨status, he, -, rfl⟩ | ⟨reason, he, rfl⟩ := h
  · rw [detail, he]
    rfl
  · rw [detail, he]
    by_cases hr : reason = ""
    · subst hr
      rfl
    · have hn : ¬reason.isEmpty = true := fun hs => hr (String.isEmpty_iff.mp hs)
      rw [StepFailure.detail, if_neg hn]
      exact (if_neg hr).symm

theorem FailsWith.step_eq {call : Call} {error : StepError} (h : call.FailsWith error) :
    error.step = call.step := by
  obtain ⟨status, -, -, rfl⟩ | ⟨reason, -, rfl⟩ := h <;> rfl

theorem FailsWith.message_eq {call : Call} {error : StepError} (h : call.FailsWith error) :
    error.message = "Could not finish step " ++ call.step.identity ++ " in phase " ++
      call.phase.name ++ " (" ++ call.detail ++ ")" := by
  unfold StepError.message
  rw [h.phase_eq, h.step_eq, h.detail_eq]

theorem FailsWith.not_faulted {call : Call} {error : StepError} (h : call.FailsWith error) :
    call.isFaulted = false := by
  obtain ⟨status, he, -, -⟩ | ⟨reason, he, -⟩ := h
  · simp [isFaulted, he]
  · simp [isFaulted, he]

theorem not_faulted_of_passed {call : Call} (h : call.passed = true) : call.isFaulted = false := by
  simp_all [passed, isFaulted]

theorem exitCode?_eq_none_iff {call : Call} (h : call.isFaulted = false) :
    call.exitCode? = none ↔ ∃ reason, call.reply.ending = .notStarted reason := by
  unfold isFaulted at h
  unfold exitCode?
  cases he : call.reply.ending <;> simp_all

/-- What is said of all records by phase and success is said of all calls. -/
theorem forall_mem_mapIdx_iff {record : Nat → Call → StepResult}
    (hphase : ∀ n call, (record n call).phase = call.phase)
    (hpassed : ∀ n call, (record n call).passed = call.passed) (p : Phase → Bool → Prop)
    (calls : List Call) :
    (∀ step ∈ calls.mapIdx record, p step.phase step.passed) ↔
      ∀ call ∈ calls, p call.phase call.passed := by
  induction calls generalizing record with
  | nil => simp
  | cons call calls ih =>
      have ht := ih (fun n call => hphase (n + 1) call) (fun n call => hpassed (n + 1) call)
      simp only [List.mapIdx_cons, List.forall_mem_cons, hphase, hpassed, ht]

end Call

namespace Plan

variable {σ : Type} {plan : Plan} {environment : List (String × String)} {runner : Runner σ}
  {state : σ} {clock : List Binary64} {result : RunResult}

/-- The tests are left out exactly if a call of the creation does not pass. -/
theorem phasesRun_eq (plan : Plan) (runner : Runner σ) (state : σ) :
    plan.phasesRun runner state = [.preInstall, .createInfrastructure] ++
      (if ∀ call ∈ plan.course runner state,
          call.phase = .createInfrastructure → call.passed = true
        then [.runTests] else []) ++ [.destroyInfrastructure] := by
  have same : (∀ call ∈ plan.course runner state,
        call.phase = .createInfrastructure → call.passed = true) ↔
      ((plan.protectedCalls runner state).all fun call =>
        call.passed || call.phase ≠ .createInfrastructure) = true := by
    simp only [List.all_eq_true, Bool.or_eq_true, decide_eq_true_eq, course, List.mem_append]
    constructor
    · intro h call mem
      by_cases hp : call.phase = .createInfrastructure
      · exact Or.inl (h call (Or.inl (Or.inr mem)) hp)
      · exact Or.inr hp
    · rintro h call ((mem | mem) | mem) hp
      · simp [plan.phase_of_mem_preparation runner state mem] at hp
      · exact (h call mem).resolve_right (not_not_intro hp)
      · simp [plan.phase_of_mem_cleanup runner state mem] at hp
  simp only [phasesRun, same]

/-- A result is of a course whose calls all passed, or of one with a single failed call, which is
the last one before the cleanup. -/
theorem Ends.course_cases (h : plan.Ends environment runner state clock (.completed result)) :
    (∀ call ∈ plan.course runner state, call.passed = true) ∧
        result.outcome = .succeeded ∧ result.failure = none ∨
      ∃ before call error,
        plan.course runner state = before ++ call :: plan.cleanup runner state ∧
          (∀ other ∈ before ++ plan.cleanup runner state, other.passed = true) ∧
          call.phase ∈ Phase.protectedPhases ∧ call.FailsWith error ∧
          result.outcome = .failed ∧ result.failure = some error.message := by
  cases h with
  | succeeded complete passed => exact Or.inl ⟨passed, rfl, rfl⟩
  | protectedFailed complete prepared closed mem fails =>
      obtain ⟨before, hb, hp⟩ :=
        Call.eq_append_singleton_of_mem (plan.cut_protectedCalls runner state) mem fails.not_passed
      refine Or.inr ⟨plan.preparation runner state ++ before, _, _, ?_, ?_,
        plan.phase_of_mem_protectedCalls runner state mem, fails, rfl, rfl⟩
      · simp [course, hb]
      · simp only [List.mem_append]
        rintro other ((ho | ho) | ho)
        · exact prepared other ho
        · exact hp other ho
        · exact closed other ho

/-- A run that came to a result met no fault. -/
theorem Ends.not_faulted (h : plan.Ends environment runner state clock (.completed result)) :
    ∀ call ∈ plan.course runner state, call.isFaulted = false := by
  intro call mem
  obtain ⟨passed, -, -⟩ | ⟨before, failed, error, hcourse, passed, -, fails, -, -⟩ := h.course_cases
  · exact Call.not_faulted_of_passed (passed call mem)
  · simp only [hcourse, List.mem_append, List.mem_cons] at mem
    obtain mem | rfl | mem := mem
    · exact Call.not_faulted_of_passed (passed call (by simp [mem]))
    · exact fails.not_faulted
    · exact Call.not_faulted_of_passed (passed call (by simp [mem]))

theorem Ends.steps_eq (h : plan.Ends environment runner state clock (.completed result)) :
    result.steps = (plan.course runner state).mapIdx (Call.recordAt clock) := by
  rw [← Call.results_eq_mapIdx h.not_faulted clock]
  cases h <;> rfl

theorem Ends.forall_mem_steps_iff
    (h : plan.Ends environment runner state clock (.completed result))
    (p : Phase → Bool → Prop) :
    (∀ step ∈ result.steps, p step.phase step.passed) ↔
      ∀ call ∈ plan.course runner state, p call.phase call.passed := by
  rw [h.steps_eq]
  exact Call.forall_mem_mapIdx_iff (Call.phase_recordAt clock) (Call.passed_recordAt clock) p _

theorem Ends.succeeded_iff (h : plan.Ends environment runner state clock (.completed result)) :
    result.outcome = .succeeded ↔ ∀ step ∈ result.steps, step.passed = true := by
  rw [h.forall_mem_steps_iff fun _ passed => passed = true]
  obtain ⟨passed, ho, -⟩ | ⟨before, failed, error, hcourse, -, -, fails, ho, -⟩ := h.course_cases
  · exact ⟨fun _ => passed, fun _ => ho⟩
  · have mem : failed ∈ plan.course runner state := by simp [hcourse]
    have hn := fails.not_passed
    exact ⟨fun hs => by simp [ho] at hs, fun passed => by simp [passed failed mem] at hn⟩

/-- The record of a failed run is split by the one record of a call that did not pass. -/
theorem Ends.failed_record (h : plan.Ends environment runner state clock (.completed result))
    (hfailed : result.outcome = .failed) :
    ∃ before failed cleanup call,
      result.steps = before ++ failed :: cleanup ∧
        (∀ step ∈ before ++ cleanup, step.passed = true) ∧ failed.passed = false ∧
        failed.phase ∈ Phase.protectedPhases ∧
        (∀ step ∈ cleanup, step.phase = .destroyInfrastructure) ∧
        (plan.course runner state)[before.length]? = some call ∧
        result.failure = some ("Could not finish step " ++ failed.step ++ " in phase " ++
          failed.phase.name ++ " (" ++ call.detail ++ ")") := by
  obtain ⟨-, ho, -⟩ | ⟨before, failed, error, hcourse, passed, guarded, fails, -, hf⟩ :=
    h.course_cases
  · simp [ho] at hfailed
  · have preceding := Call.forall_mem_mapIdx_iff
      (Call.phase_recordAt clock) (Call.passed_recordAt clock)
    -- The records behind the failed call are those of the cleanup, further along the clock.
    have closing := Call.forall_mem_mapIdx_iff
      (fun n => Call.phase_recordAt clock (n + 1 + before.length))
      (fun n => Call.passed_recordAt clock (n + 1 + before.length))
    refine ⟨before.mapIdx (Call.recordAt clock), failed.recordAt clock before.length,
      (plan.cleanup runner state).mapIdx fun n => Call.recordAt clock (n + 1 + before.length),
      failed, ?_, ?_, ?_, ?_, ?_, ?_, ?_⟩
    · rw [h.steps_eq]
      simp [hcourse, List.mapIdx_append, List.mapIdx_cons]
    · rw [List.forall_mem_append] at passed ⊢
      exact ⟨(preceding (fun _ passed => passed = true) before).mpr passed.1,
        (closing (fun _ passed => passed = true) _).mpr passed.2⟩
    · rw [Call.passed_recordAt]
      exact fails.not_passed
    · exact guarded
    · exact (closing (fun phase _ => phase = .destroyInfrastructure) _).mpr
        fun call mem => plan.phase_of_mem_cleanup runner state mem
    · simp [hcourse]
    · rw [hf, fails.message_eq]
      rfl

end Plan

namespace Session

variable {σ : Type}

/-- The result of a run records each of its calls once and in order, and its failure tells of the
one call that did not pass. -/
theorem result_runPlan (runner : Runner σ) (showCommands : Bool) (plan : Plan)
    (environment : List (String × String)) (state : σ) (clock : List Binary64)
    {result : RunResult} {session : Session σ}
    (h : (start state clock (some [])).runPlan runner showCommands plan environment =
      (.completed result, session)) :
    let course := plan.course runner state
    session.calls = course.map Call.exchange ∧
      result.steps = course.mapIdx (fun n call =>
        ⟨call.phase, call.step.identity, call.exitCode?,
          elapsedMs (reading clock (2 * n)) (reading clock (2 * n + 1))⟩) ∧
      (∀ call ∈ course,
        call.exitCode? = none ↔ ∃ reason, call.reply.ending = .notStarted reason) ∧
      result.phasesRun = [.preInstall, .createInfrastructure] ++
        (if ∀ step ∈ result.steps, step.phase = .createInfrastructure → step.passed = true
          then [.runTests] else []) ++ [.destroyInfrastructure] ∧
      (result.outcome = .succeeded ↔ ∀ step ∈ result.steps, step.passed = true) ∧
      (result.outcome = .succeeded ↔ result.failure = none) ∧
      (result.outcome = .failed → ∃ before failed cleanup call,
        result.steps = before ++ failed :: cleanup ∧
          (∀ step ∈ before ++ cleanup, step.passed = true) ∧ failed.passed = false ∧
          failed.phase ∈ Phase.protectedPhases ∧
          (∀ step ∈ cleanup, step.phase = .destroyInfrastructure) ∧
          course[before.length]? = some call ∧
          result.failure = some ("Could not finish step " ++ failed.step ++ " in phase " ++
            failed.phase.name ++ " (" ++ call.detail ++ ")")) := by
  intro course
  have ends := ends_runPlan runner showCommands plan environment state clock
  rw [h] at ends
  have complete : plan.absent environment = [] := by cases ends <;> assumption
  rw [← plan.missingVars_eq_absent] at complete
  have made := (runPlan_spec runner showCommands plan environment
    (start state clock (some [])) complete).1
  rw [h] at made
  refine ⟨?_, ?_, ?_, ?_, ?_, ?_, ?_⟩
  · exact made.calls_eq
  · exact ends.steps_eq
  · exact fun call mem => Call.exitCode?_eq_none_iff (ends.not_faulted call mem)
  · have created := ends.forall_mem_steps_iff fun phase passed =>
      phase = .createInfrastructure → passed = true
    have hphases : result.phasesRun = plan.phasesRun runner state := by cases ends <;> rfl
    simp only [created, hphases, plan.phasesRun_eq]
  · exact ends.succeeded_iff
  · obtain ⟨-, ho, hf⟩ | ⟨before, failed, error, -, -, -, -, ho, hf⟩ := ends.course_cases <;>
      simp [ho, hf]
  · exact ends.failed_record

/-- The result of a rehearsal whose first test could not be started. -/
def rehearsed : RunResult :=
  ⟨.failed, [.preInstall, .createInfrastructure, .runTests, .destroyInfrastructure],
    [⟨.preInstall, "deploy.md:1-1", some 0, 2000⟩,
      ⟨.createInfrastructure, "deploy.md:2-2", some 0, 3000⟩,
      ⟨.runTests, "deploy.md:3-3", none, 1000⟩,
      ⟨.destroyInfrastructure, "deploy.md:5-5", some 0, 4000⟩,
      ⟨.destroyInfrastructure, "deploy.md:6-6", some 0, 0⟩],
    some "Could not finish step deploy.md:3-3 in phase run-tests (no shell)"⟩

/-- The first test has no exit code, and the failure gives the reason. -/
theorem result_runPlan_not_started :
    let run := (start [.exited 0, .exited 0, .notStarted "no shell"]
      ([10, 12, 12, 15, 15, 16, 16, 20].map Binary64.ofInt) (some [])).runPlan
        scriptedRunner false rehearsal [("TOKEN", "1")]
    run = (.completed rehearsed, run.2) ∧
      run.2.calls.map Prod.fst = ["prepare", "create", "test", "destroy", "report"] ∧
      ¬∀ step ∈ rehearsed.steps, step.passed = true := by
  intro run
  have ending : run.1 = .completed rehearsed := by decide +kernel
  have h : run = (.completed rehearsed, run.2) := Prod.ext ending rfl
  have record := result_runPlan scriptedRunner false rehearsal [("TOKEN", "1")]
    [.exited 0, .exited 0, .notStarted "no shell"]
    ([10, 12, 12, 15, 15, 16, 16, 20].map Binary64.ofInt) h
  obtain ⟨calls, -, -, -, succeeded, -, -⟩ := record
  refine ⟨h, ?_, ?_⟩
  · rw [calls]
    rfl
  · rw [← succeeded]
    decide

end Session

end Runbook
