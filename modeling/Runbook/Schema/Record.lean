import Runbook.Plan.Basic
import Runbook.Run.Result
import Runbook.Schema.Field

/-!
# Reading records

The records that can be given as plain data: directives, steps, plans, and results. Fields that a
record does not have are passed over.
-/

namespace Runbook

open Runbook.Field (required optional)

/-- Reads a span: exactly two integers. -/
def Span.ofValue : Value → Checked Span
  | .list items =>
    let part (position : Nat) : Checked Int :=
      match items[position]? with
      | some item => (Field.int item).under (decimalText position)
      | none => (Checked.fail .missing).under (decimalText position)
    if 2 < items.length then .fail .tooLong
    else (Checked.both (part 0) (part 1)).map fun (first, last) => ⟨first, last⟩
  | _ => .fail .tupleType

/-- Reads a directive. -/
def Directive.ofValue (value : Value) : Checked Directive := do
  let fields ← Field.mapping .modelType value
  let (kind, params, source, span, content) ←
    Checked.both (required "kind" Field.text fields)
      (.both (optional "params" [] (Field.list .tupleType Field.text) fields)
        (.both (required "source_name" Field.text fields)
          (.both (required "line_span" Span.ofValue fields)
            (optional "content" "" Field.text fields))))
  return ⟨kind, params, source, span, content⟩

/-- Reads a step. -/
def Step.ofValue (value : Value) : Checked Step := do
  let fields ← Field.mapping .modelType value
  let (source, span, shell) ←
    Checked.both (required "source_name" Field.text fields)
      (.both (required "line_span" Span.ofValue fields) (required "shell" Field.text fields))
  return ⟨source, span, shell⟩

/-- Reads a phase. -/
def Phase.ofValue : Value → Checked Phase := Field.named Phase.ofName?

/-- Reads the result of a step. -/
def StepResult.ofValue (value : Value) : Checked StepResult := do
  let fields ← Field.mapping .modelType value
  let (phase, step, exitCode, durationMs) ←
    Checked.both (required "phase" Phase.ofValue fields)
      (.both (required "step" Field.text fields)
        (.both (required "exit_code" (Field.nullable Field.int) fields)
          (optional "duration_ms" 0 Field.int fields)))
  return ⟨phase, step, exitCode, durationMs⟩

/-- Reads the result of a run. -/
def RunResult.ofValue (value : Value) : Checked RunResult := do
  let fields ← Field.mapping .modelType value
  let (outcome, phasesRun, steps, failure) ←
    Checked.both (required "outcome" (Field.named Outcome.ofName?) fields)
      (.both (optional "phases_run" [] (Field.list .listType Phase.ofValue) fields)
        (.both (optional "steps" [] (Field.list .listType StepResult.ofValue) fields)
          (optional "failure" none (Field.nullable Field.text) fields)))
  return ⟨outcome, phasesRun, steps, failure⟩

namespace Plan

/-- Reads the metadata of a plan. -/
def metadataOfValue (value : Value) : Checked Metadata := do
  Metadata.ofEntries (← Field.mapping .dictType value)

/-- Reads the phase that a key names. -/
def phaseOfKey (key : Scalar) : Checked Phase :=
  ((Phase.ofValue (.scalar key)).under Problem.keyStep).under (Metadata.keyText key)

/-- Reads the steps that an entry gives for a phase. -/
def phaseEntry (entry : Scalar × Value) : Checked (Phase × List Step) :=
  Checked.both (phaseOfKey entry.1)
    ((Field.list .tupleType Step.ofValue entry.2).under (Metadata.keyText entry.1))

/-- Reads the steps of the phases; a phase that is not there has none. -/
def stepsOfValue (value : Value) : Checked (PerPhase (List Step)) := do
  let entries ← Field.mapping .dictType value
  let found ← Checked.all (entries.map phaseEntry)
  return PerPhase.ofFn fun phase => (found.lookup phase).getD []

/-- Reads a plan. -/
def ofValue (value : Value) : Checked Plan := do
  let fields ← Field.mapping .modelType value
  let (metadata, requiredVars, steps) ←
    Checked.both (optional "metadata" [] metadataOfValue fields)
      (.both (optional "required_env_vars" [] (Field.list .tupleType Field.text) fields)
        (optional "steps_in_phases" (PerPhase.ofFn fun _ => []) stepsOfValue fields))
  return ⟨metadata, requiredVars, steps⟩

end Plan

end Runbook
