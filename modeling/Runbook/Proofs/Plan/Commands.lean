import Runbook.Plan.Source
import Runbook.Proofs.Plan.Order
import Runbook.Proofs.Run.Cleanup

/-!
# From a document to commands

A run whose commands all end with status zero takes every step of its plan. Its commands are then
known from the document: they are the contents of the directives that name a phase, in run order.
-/

namespace Runbook

namespace Plan

section Passed

variable {σ : Type} (plan : Plan) (runner : Runner σ)

theorem calls_map_item_of_passed {phases : List Phase} {state : σ}
    (h : ∀ call ∈ plan.calls runner phases state, call.passed = true) :
    (plan.calls runner phases state).map (fun call => (call.phase, call.step)) =
      plan.agenda phases := by
  have passed : (runner.calls state (plan.agenda phases)).all Call.passed = true := by
    rw [← Call.all_passed_cut]
    exact List.all_eq_true.mpr h
  rw [calls, Call.cut_eq_self (List.all_eq_true.mp passed), Runner.calls_map_item]

/-- A course whose calls all pass takes every step of the plan. -/
theorem course_map_item_of_passed {state : σ}
    (h : ∀ call ∈ plan.course runner state, call.passed = true) :
    (plan.course runner state).map (fun call => (call.phase, call.step)) =
      plan.agenda Phase.all := by
  have parts : plan.agenda Phase.all = plan.agenda [.preInstall] ++
      plan.agenda Phase.protectedPhases ++ plan.agenda [.destroyInfrastructure] := by
    simp [agenda, Phase.all, Phase.protectedPhases]
  simp only [course, List.mem_append] at h
  have prepared : ∀ call ∈ plan.preparation runner state, call.passed = true :=
    fun call mem => h call (Or.inl (Or.inl mem))
  have ready := List.all_eq_true.mpr prepared
  have guarded : ∀ call ∈ plan.protectedCalls runner state, call.passed = true :=
    fun call mem => h call (Or.inl (Or.inr mem))
  have closed : ∀ call ∈ plan.cleanup runner state, call.passed = true :=
    fun call mem => h call (Or.inr mem)
  rw [protectedCalls, if_pos ready] at guarded
  rw [cleanup, if_pos ready] at closed
  rw [course, parts, List.map_append, List.map_append, protectedCalls, if_pos ready, cleanup,
    if_pos ready, calls_map_item_of_passed plan runner guarded,
    calls_map_item_of_passed plan runner closed, preparation,
    calls_map_item_of_passed plan runner prepared]

end Passed

/-- The plan of a document is given by its directives and its metadata. -/
theorem exists_ofDirectives_of_ofText {text file : String} {plan : Plan}
    (h : ofText text file = .ok plan) :
    ∃ metadata, plan = ofDirectives metadata (Directive.ofText text file) := by
  unfold ofText at h
  split at h
  · cases h
  · split at h
    · split at h
      · cases h
      · next metadata _ =>
        cases h
        exact ⟨metadata, rfl⟩
    · cases h

end Plan

namespace Session

variable {σ : Type}

/-- From a document to commands nothing is lost, repeated or moved: if every command of a run ends
with status zero, then the commands are the contents of the directives that name a phase, stably
sorted by the order of the phases. -/
theorem commands_runPlan (runner : Runner σ) (showCommands : Bool) (text file : String)
    {plan : Plan} (environment : List (String × String)) (state : σ) (clock : List Binary64)
    (record : Option (List StepResult)) (accepted : Plan.ofText text file = .ok plan)
    (bound : ∀ directive ∈ Directive.ofText text file, directive.kind = "require-env" →
      ∀ name ∈ directive.params, ∃ value, (name, value) ∈ environment)
    (passed : ∀ exchange ∈ ((start state clock record).runPlan runner showCommands plan
      environment).2.calls, exchange.2.ending = .exited 0) :
    let directives := Directive.ofText text file
    let run := (start state clock record).runPlan runner showCommands plan environment
    run.2.calls.map Prod.fst = (Plan.inRunOrder directives).map (·.2.content) ∧
      ((Plan.inRunOrder directives).map Prod.snd).Perm
        (directives.filter fun directive => directive.kind ∈ Phase.all.map Phase.name) ∧
      run.2.calls.length = plan.stepCount ∧
      plan.requiredVars =
        (directives.filter fun directive => directive.kind = "require-env").flatMap (·.params) ∧
      (plan.allSteps.map Step.identity).Nodup := by
  intro directives run
  obtain ⟨metadata, hplan⟩ := Plan.exists_ofDirectives_of_ofText accepted
  have required : plan.requiredVars =
      (directives.filter fun directive => directive.kind = "require-env").flatMap (·.params) := by
    rw [hplan]
    rfl
  have complete : plan.missingVars environment = [] := by
    rw [Plan.missingVars_eq_nil_iff, required]
    intro name mem
    obtain ⟨directive, hd, hname⟩ := List.mem_flatMap.mp mem
    obtain ⟨hd, kind⟩ := List.mem_filter.mp hd
    exact bound directive hd (of_decide_eq_true kind) name hname
  have made : run.2.calls = (plan.course runner state).map Call.exchange :=
    (runPlan_spec runner showCommands plan environment (start state clock record)
      complete).1.calls_eq
  have items : (plan.course runner state).map (fun call => (call.phase, call.step)) =
      plan.agenda Phase.all := by
    refine plan.course_map_item_of_passed runner fun call mem => ?_
    have ended : call.reply.ending = .exited 0 :=
      passed call.exchange (made ▸ List.mem_map_of_mem mem)
    exact decide_eq_true ended
  have agenda : plan.agenda Phase.all =
      (Plan.inRunOrder directives).map fun item => (item.1, Plan.stepOf item.2) := by
    rw [hplan]
    exact Plan.agenda_ofDirectives metadata directives
  refine ⟨?_, Plan.inRunOrder_perm directives, ?_, required, ?_⟩
  · have commands := congrArg (List.map fun item => item.2.shell) (items.trans agenda)
    simp only [List.map_map] at commands
    rw [made, List.map_map]
    exact commands
  · have count := congrArg List.length items
    rw [List.length_map] at count
    rw [made, List.length_map, count, Plan.stepCount, Plan.allSteps_eq_map_agenda, List.length_map]
  · rw [hplan]
    exact Plan.nodup_identities metadata text file

/-- A document whose test stands before the preparation. -/
def manual : String :=
  "---\ndeployDoc: true\n---\n<!-- deploy-doc run-tests -->\n```\n probe \n```\n" ++
    "<!-- deploy-doc require-env TOKEN -->\n<!-- deploy-doc pre-install -->\n~~~\nmake\n~~~\n"

theorem directives_manual :
    Directive.ofText manual "manual.md" =
      [⟨"run-tests", [], "manual.md", ⟨5, 7⟩, " probe \n"⟩,
        ⟨"require-env", ["TOKEN"], "manual.md", ⟨8, 8⟩, ""⟩,
        ⟨"pre-install", [], "manual.md", ⟨10, 12⟩, "make\n"⟩] := by decide +kernel

/-- The preparation is run first, and the test keeps the blanks of its block. -/
theorem commands_runPlan_manual :
    ∃ plan, Plan.ofText manual "manual.md" = .ok plan ∧
      ((start [] [] none).runPlan scriptedRunner true plan [("TOKEN", "1")]).2.calls.map Prod.fst =
        ["make\n", " probe \n"] := by
  have accepted : (Plan.ofText manual "manual.md").toOption.isSome = true := by decide +kernel
  obtain ⟨plan, plans⟩ : ∃ plan, Plan.ofText manual "manual.md" = .ok plan := by
    cases read : Plan.ofText manual "manual.md" with
    | error error =>
        rw [read] at accepted
        cases accepted
    | ok plan => exact ⟨plan, rfl⟩
  have bound : ∀ directive ∈ Directive.ofText manual "manual.md",
      directive.kind = "require-env" → ∀ name ∈ directive.params,
        ∃ value, (name, value) ∈ [("TOKEN", "1")] := by
    simp [directives_manual]
  have passed : ∀ exchange ∈ ((start [] [] none).runPlan scriptedRunner true plan
      [("TOKEN", "1")]).2.calls, exchange.2.ending = .exited 0 := by
    obtain ⟨metadata, rfl⟩ := Plan.exists_ofDirectives_of_ofText plans
    have calls : ((start [] [] none).runPlan scriptedRunner true (Plan.ofDirectives metadata
        (Directive.ofText manual "manual.md")) [("TOKEN", "1")]).2.calls =
          [("make\n", ⟨.exited 0, "", ""⟩), (" probe \n", ⟨.exited 0, "", ""⟩)] := by
      rw [directives_manual]
      rfl
    simp [calls]
  have commands := (commands_runPlan scriptedRunner true manual "manual.md" [("TOKEN", "1")] [] []
    none plans bound passed).1
  refine ⟨plan, plans, commands.trans ?_⟩
  rw [Plan.map_content_inRunOrder, directives_manual]
  decide

end Session

end Runbook
