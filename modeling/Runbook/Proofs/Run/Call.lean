import Runbook.Run.Plan

/-!
# Calls of a run

A call is a step of a phase with the runner's reply to its command. A runner is a function of its
state, so the calls on a list of steps are known before any step is run: they are the calls on all
steps in turn, cut behind the first one that does not pass.
-/

namespace Runbook

/-- A step of a phase and the reply to its command. -/
structure Call where
  phase : Phase
  step : Step
  reply : Reply
  deriving DecidableEq, Repr

namespace Call

/-- Whether the command of a call ended with status zero. -/
def passed (call : Call) : Bool := call.reply.ending = .exited 0

/-- How a phase goes on behind a call. -/
def ending (call : Call) : PhaseEnding :=
  match call.reply.ending with
  | .exited status =>
    if status = 0 then .completed else .failed ⟨call.phase, call.step, .exited status⟩
  | .notStarted reason => .failed ⟨call.phase, call.step, .notStarted reason⟩
  | .faulted fault => .faulted fault

/-- The calls up to the first one that does not pass, which is included. -/
def cut (calls : List Call) : List Call := calls.take (calls.findIdx (fun call => !call.passed) + 1)

/-- How calls in turn end: as the first one that does not pass. -/
def endingOf (calls : List Call) : PhaseEnding :=
  match calls.find? fun call => !call.passed with
  | some call => call.ending
  | none => .completed

theorem ending_eq_completed_iff (call : Call) : call.ending = .completed ↔ call.passed = true := by
  unfold ending passed
  cases h : call.reply.ending with
  | exited status => by_cases hs : status = 0 <;> simp [hs]
  | notStarted reason => simp
  | faulted fault => simp

theorem ending_of_passed {call : Call} (h : call.passed = true) : call.ending = .completed :=
  call.ending_eq_completed_iff.mpr h

@[simp] theorem cut_nil : cut [] = [] := rfl

theorem cut_cons (call : Call) (calls : List Call) :
    cut (call :: calls) = call :: if call.passed then cut calls else [] := by
  cases h : call.passed <;> simp [cut, List.findIdx_cons, h]

/-- Calls that pass are not cut. -/
theorem cut_eq_self {calls : List Call} (h : ∀ call ∈ calls, call.passed = true) :
    cut calls = calls := by
  induction calls with
  | nil => rfl
  | cons call calls ih =>
      have hc : call.passed = true := h call (by simp)
      have ht : ∀ call ∈ calls, call.passed = true := fun c hm => h c (by simp [hm])
      simp [cut_cons, hc, ih ht]

/-- Later calls are reached only behind calls that all pass. -/
theorem cut_append (calls later : List Call) :
    cut (calls ++ later) =
      if calls.all passed then calls ++ cut later else cut calls := by
  induction calls with
  | nil => simp
  | cons call calls ih =>
      cases h : call.passed with
      | false => simp [cut_cons, h]
      | true =>
          simp only [List.cons_append, cut_cons, h, if_true, ih, List.all_cons, Bool.true_and]
          split <;> rfl

/-- Whether all calls pass is seen before the cut. -/
theorem all_passed_cut (calls : List Call) : (cut calls).all passed = calls.all passed := by
  induction calls with
  | nil => rfl
  | cons call calls ih => cases h : call.passed <;> simp [cut_cons, h, ih]

@[simp] theorem endingOf_nil : endingOf [] = .completed := rfl

theorem endingOf_cons (call : Call) (calls : List Call) :
    endingOf (call :: calls) = if call.passed then endingOf calls else call.ending := by
  cases h : call.passed <;> simp [endingOf, h]

@[simp] theorem endingOf_singleton (call : Call) : endingOf [call] = call.ending := by
  cases h : call.passed with
  | true => simp [endingOf_cons, h, ending_of_passed h]
  | false => simp [endingOf_cons, h]

theorem endingOf_append (calls later : List Call) :
    endingOf (calls ++ later) = if calls.all passed then endingOf later else endingOf calls := by
  induction calls with
  | nil => simp
  | cons call calls ih => cases h : call.passed <;> simp [endingOf_cons, h, ih]

theorem endingOf_eq_completed_iff (calls : List Call) :
    endingOf calls = .completed ↔ ∀ call ∈ calls, call.passed = true := by
  induction calls with
  | nil => simp
  | cons call calls ih =>
      cases h : call.passed with
      | true => simp [endingOf_cons, h, ih]
      | false =>
          have hc : call.ending ≠ .completed := by simp [ending_eq_completed_iff, h]
          simp [endingOf_cons, h, hc]

theorem cut_cut (calls : List Call) : cut (cut calls) = cut calls := by
  induction calls with
  | nil => rfl
  | cons call calls ih => cases h : call.passed <;> simp [cut_cons, h, ih]

/-- Calls that were cut hold at most one that does not pass, so that any such call tells the
ending. -/
theorem endingOf_eq_iff {calls : List Call} (hcut : cut calls = calls) {ending : PhaseEnding}
    (hne : ending ≠ .completed) :
    endingOf calls = ending ↔ ∃ call ∈ calls, call.ending = ending := by
  induction calls with
  | nil => simp [Ne.symm hne]
  | cons call calls ih =>
      cases h : call.passed with
      | true =>
          have ht : cut calls = calls := by simpa [cut_cons, h] using hcut
          have hc : call.ending ≠ ending := by simp [ending_of_passed h, Ne.symm hne]
          simp [endingOf_cons, h, ih ht, hc]
      | false =>
          have ht : calls = [] := by simpa [cut_cons, h] using hcut.symm
          simp [endingOf_cons, h, ht]

/-- A call that ended with another status or was not started, with the error that tells of it. -/
def FailsWith (call : Call) (error : StepError) : Prop :=
  (∃ status, call.reply.ending = .exited status ∧ status ≠ 0 ∧
    error = ⟨call.phase, call.step, .exited status⟩) ∨
  ∃ reason, call.reply.ending = .notStarted reason ∧
    error = ⟨call.phase, call.step, .notStarted reason⟩

theorem FailsWith.phase_eq {call : Call} {error : StepError} (h : call.FailsWith error) :
    error.phase = call.phase := by
  obtain ⟨status, -, -, rfl⟩ | ⟨reason, -, rfl⟩ := h <;> rfl

theorem FailsWith.not_passed {call : Call} {error : StepError} (h : call.FailsWith error) :
    call.passed = false := by
  obtain ⟨status, he, hs, -⟩ | ⟨reason, he, -⟩ := h
  · simp [passed, he, hs]
  · simp [passed, he]

theorem ending_eq_failed_iff (call : Call) (error : StepError) :
    call.ending = .failed error ↔ call.FailsWith error := by
  unfold ending FailsWith
  cases h : call.reply.ending with
  | exited status => by_cases hs : status = 0 <;> simp [hs, @eq_comm _ error]
  | notStarted reason => simp [@eq_comm _ error]
  | faulted fault => simp

theorem ending_eq_faulted_iff (call : Call) (fault : Fault) :
    call.ending = .faulted fault ↔ call.reply.ending = .faulted fault := by
  unfold ending
  cases h : call.reply.ending with
  | exited status => by_cases hs : status = 0 <;> simp [hs]
  | notStarted reason => simp
  | faulted fault => simp

theorem endingOf_eq_failed_iff {calls : List Call} (hcut : cut calls = calls) (error : StepError) :
    endingOf calls = .failed error ↔ ∃ call ∈ calls, call.FailsWith error := by
  have hne : PhaseEnding.failed error ≠ .completed := by simp
  rw [endingOf_eq_iff hcut hne]
  simp only [ending_eq_failed_iff]

theorem endingOf_eq_faulted_iff {calls : List Call} (hcut : cut calls = calls) (fault : Fault) :
    endingOf calls = .faulted fault ↔ ∃ call ∈ calls, call.reply.ending = .faulted fault := by
  have hne : PhaseEnding.faulted fault ≠ .completed := by simp
  rw [endingOf_eq_iff hcut hne]
  simp only [ending_eq_faulted_iff]

end Call

namespace Runner

variable {σ : Type}

/-- The calls on steps in turn, none of them left out. -/
def calls (runner : Runner σ) : σ → List (Phase × Step) → List Call
  | _, [] => []
  | state, (phase, step) :: agenda =>
    let (reply, state) := runner state step.shell
    ⟨phase, step, reply⟩ :: calls runner state agenda

/-- The state of a runner behind calls. -/
def after (runner : Runner σ) (state : σ) (calls : List Call) : σ :=
  calls.foldl (fun state call => (runner state call.step.shell).2) state

@[simp] theorem after_nil (runner : Runner σ) (state : σ) : runner.after state [] = state := rfl

@[simp] theorem after_cons (runner : Runner σ) (state : σ) (call : Call) (calls : List Call) :
    runner.after state (call :: calls) =
      runner.after (runner state call.step.shell).2 calls := rfl

theorem after_append (runner : Runner σ) (state : σ) (calls later : List Call) :
    runner.after state (calls ++ later) = runner.after (runner.after state calls) later := by
  simp [after]

theorem calls_append (runner : Runner σ) (state : σ) (agenda later : List (Phase × Step)) :
    runner.calls state (agenda ++ later) =
      runner.calls state agenda ++
        runner.calls (runner.after state (runner.calls state agenda)) later := by
  induction agenda generalizing state with
  | nil => rfl
  | cons item agenda ih => simp [calls, ih]

/-- The calls on steps are calls on these steps, in their order. -/
theorem calls_map_item (runner : Runner σ) (state : σ) (agenda : List (Phase × Step)) :
    (runner.calls state agenda).map (fun call => (call.phase, call.step)) = agenda := by
  induction agenda generalizing state with
  | nil => rfl
  | cons item agenda ih => simp [calls, ih]

end Runner

namespace Plan

variable {σ : Type}

/-- The steps of phases in order, each with its phase. -/
def agenda (plan : Plan) (phases : List Phase) : List (Phase × Step) :=
  phases.flatMap fun phase => (plan.steps.get phase).map (phase, ·)

/-- The calls that phases come to from a state of the runner: the calls on their steps in order,
cut behind the first one that does not pass. -/
def calls (plan : Plan) (runner : Runner σ) (phases : List Phase) (state : σ) : List Call :=
  Call.cut (runner.calls state (plan.agenda phases))

theorem calls_cons (plan : Plan) (runner : Runner σ) (phase : Phase) (phases : List Phase)
    (state : σ) :
    plan.calls runner (phase :: phases) state =
      plan.calls runner [phase] state ++
        if (plan.calls runner [phase] state).all Call.passed then
          plan.calls runner phases (runner.after state (plan.calls runner [phase] state))
        else [] := by
  have hagenda : plan.agenda (phase :: phases) = plan.agenda [phase] ++ plan.agenda phases := by
    simp [agenda]
  rw [calls, hagenda, Runner.calls_append, Call.cut_append, calls, Call.all_passed_cut]
  cases h : (runner.calls state (plan.agenda [phase])).all Call.passed with
  | true => simp only [if_true, Call.cut_eq_self (List.all_eq_true.mp h), calls]
  | false => simp

/-- The calls of phases are made on the first of their steps, in order. -/
theorem calls_prefix (plan : Plan) (runner : Runner σ) (phases : List Phase) (state : σ) :
    (plan.calls runner phases state).map (fun call => (call.phase, call.step)) <+:
      plan.agenda phases := by
  rw [calls, Call.cut, List.map_take, Runner.calls_map_item]
  exact List.take_prefix ..

theorem phase_mem_of_mem_calls (plan : Plan) (runner : Runner σ) (phases : List Phase) (state : σ)
    {call : Call} (h : call ∈ plan.calls runner phases state) : call.phase ∈ phases := by
  have hm : (call.phase, call.step) ∈ plan.agenda phases :=
    (plan.calls_prefix runner phases state).subset (List.mem_map_of_mem h)
  simp only [agenda, List.mem_flatMap, List.mem_map, Prod.mk.injEq] at hm
  obtain ⟨phase, hp, step, _, rfl, _⟩ := hm
  exact hp

end Plan

end Runbook
