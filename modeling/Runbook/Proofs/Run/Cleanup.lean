import Runbook.Proofs.Run.Course
import Runbook.Run.Script

/-!
# The commands of a run

A run in a complete environment runs exactly the commands of its course. The cleanup starts behind
every ending of the protected phases, a fault included, and no step is run twice.
-/

namespace Runbook

namespace Plan

variable {σ : Type}

theorem missingVars_eq_nil_iff (plan : Plan) (environment : List (String × String)) :
    plan.missingVars environment = [] ↔
      ∀ name ∈ plan.requiredVars, ∃ value, (name, value) ∈ environment := by
  simp [missingVars, List.filter_eq_nil_iff]

theorem head?_cut_calls (runner : Runner σ) (state : σ) (agenda : List (Phase × Step)) :
    (Call.cut (runner.calls state agenda)).head?.map Call.step = agenda.head?.map Prod.snd := by
  cases agenda with
  | nil => rfl
  | cons item agenda => simp [Runner.calls, Call.cut_cons]

/-- The cleanup of a run that was prepared starts with its first step. -/
theorem head?_cleanup (plan : Plan) (runner : Runner σ) (state : σ)
    (h : (plan.preparation runner state).all Call.passed = true) :
    (plan.cleanup runner state).head?.map Call.step =
      (plan.steps.get .destroyInfrastructure).head? := by
  rw [cleanup, if_pos h, calls, head?_cut_calls, agenda]
  cases hs : plan.steps.get .destroyInfrastructure <;> simp [hs]

theorem steps_calls_sublist (plan : Plan) (runner : Runner σ) (phases : List Phase) (state : σ) :
    ((plan.calls runner phases state).map Call.step).Sublist (phases.flatMap plan.steps.get) := by
  have hs := ((plan.calls_prefix runner phases state).map Prod.snd).sublist
  have hall : (plan.agenda phases).map Prod.snd = phases.flatMap plan.steps.get := by
    simp [agenda, List.map_flatMap, Function.comp_def]
  rw [List.map_map, hall] at hs
  exact hs

/-- The steps of a run are steps of the plan in its order, none of them twice. -/
theorem steps_course_sublist (plan : Plan) (runner : Runner σ) (state : σ) :
    ((plan.course runner state).map Call.step).Sublist plan.allSteps := by
  have hall : plan.allSteps =
      [Phase.preInstall].flatMap plan.steps.get ++
        Phase.protectedPhases.flatMap plan.steps.get ++
        [Phase.destroyInfrastructure].flatMap plan.steps.get := by
    simp [allSteps, Phase.all, Phase.protectedPhases]
  rw [course, hall, List.map_append, List.map_append]
  refine List.Sublist.append (List.Sublist.append ?_ ?_) ?_
  · exact steps_calls_sublist ..
  · unfold protectedCalls
    split
    · exact steps_calls_sublist ..
    · exact List.nil_sublist _
  · unfold cleanup
    split
    · exact steps_calls_sublist ..
    · exact List.nil_sublist _

end Plan

namespace Session

variable {σ : Type}

/-- The commands of a run and the replies to them are those of the preparation, of the protected
phases and of the cleanup, each cut behind its first call that does not pass. -/
theorem calls_runPlan (runner : Runner σ) (showCommands : Bool) (plan : Plan)
    (environment : List (String × String)) (state : σ) (clock : List Binary64)
    (h : ∀ name ∈ plan.requiredVars, ∃ value, (name, value) ∈ environment) :
    let preparation := plan.preparation runner state
    let guarded := plan.protectedCalls runner state
    let cleanup := plan.cleanup runner state
    let run := (start state clock (some [])).runPlan runner showCommands plan environment
    run.2.calls = (preparation ++ guarded ++ cleanup).map Call.exchange ∧
      ((∀ call ∈ preparation, call.passed = true) →
        cleanup.head?.map Call.step = (plan.steps.get .destroyInfrastructure).head?) ∧
      ((preparation ++ guarded ++ cleanup).map Call.step).Sublist plan.allSteps := by
  intro preparation guarded cleanup run
  have hmissing := (plan.missingVars_eq_nil_iff environment).mpr h
  have made := (runPlan_spec runner showCommands plan environment
    (start state clock (some [])) hmissing).1
  refine ⟨?_, ?_, ?_⟩
  · exact made.calls_eq
  · intro hp
    exact plan.head?_cleanup runner state (List.all_eq_true.mpr hp)
  · exact plan.steps_course_sublist runner state

/-- A plan that requires a variable and has two steps to test and two to clean up. -/
def rehearsal : Plan :=
  let step (line : Int) (shell : String) : Step := ⟨"deploy.md", Span.line line, shell⟩
  ⟨[], ["TOKEN"], ⟨[step 1 "prepare"], [step 2 "create"], [step 3 "test", step 4 "measure"],
    [step 5 "destroy", step 6 "report"]⟩⟩

/-- A fault in the first test leaves the second one out and not the cleanup. -/
theorem calls_runPlan_behind_fault :
    (∀ name ∈ rehearsal.requiredVars, ∃ value, (name, value) ∈ [("TOKEN", "1")]) ∧
      ((start [.exited 0, .exited 0, .faulted (.unexpected "lost")] [] (some [])).runPlan
        scriptedRunner true rehearsal [("TOKEN", "1")]).2.calls.map Prod.fst =
          ["prepare", "create", "test", "destroy", "report"] := by
  have h : ∀ name ∈ rehearsal.requiredVars, ∃ value, (name, value) ∈ [("TOKEN", "1")] := by
    simp [rehearsal]
  have run := calls_runPlan scriptedRunner true rehearsal [("TOKEN", "1")]
    [.exited 0, .exited 0, .faulted (.unexpected "lost")] [] h
  refine ⟨h, ?_⟩
  rw [run.1]
  rfl

end Session

end Runbook
