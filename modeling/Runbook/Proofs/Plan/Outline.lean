import Mathlib.Data.List.Basic
import Mathlib.Tactic.TFAE
import Runbook.Plan.Outline
import Runbook.Proofs.Json.Ascii
import Runbook.Proofs.Plan.Order
import Runbook.Proofs.Schema.Record

/-!
# The plain data of a plan

The text of a plan's plain data is read back as the phases in order, each with the places and the
trimmed shell texts of its steps. The text shows these and nothing else of the plan, so that one
text at any indentation tells them as well as all texts do.
-/

namespace Runbook

/-- What the plain data of a plan shows of a step: its place and its trimmed shell text. -/
def Step.shown (step : Step) : Span × String := (step.span, Text.trimString step.shell)

namespace Plan

/-- The plain data of what is shown of a step. -/
def shownData (shown : Span × String) : Json :=
  .obj [("line_span", .arr [.int shown.1.first, .int shown.1.last]), ("shell", .str shown.2)]

theorem stepData_eq (step : Step) : stepData step = shownData step.shown := rfl

theorem shownData_injective : Function.Injective shownData := by
  rintro ⟨⟨first, last⟩, shell⟩ ⟨⟨first', last'⟩, shell'⟩ same
  obtain ⟨⟨rfl, rfl⟩, rfl⟩ : (first = first' ∧ last = last') ∧ shell = shell' := by
    simpa [shownData] using same
  rfl

section Data

variable {plan other : Plan}

/-- The plain data of two plans is the same if it shows the same of their steps, phase by phase. -/
theorem data_eq_iff :
    plan.data = other.data ↔
      ∀ phase, (plan.steps.get phase).map Step.shown = (other.steps.get phase).map Step.shown := by
  have phase_iff (phase : Phase) :
      (plan.steps.get phase).map stepData = (other.steps.get phase).map stepData ↔
        (plan.steps.get phase).map Step.shown = (other.steps.get phase).map Step.shown := by
    have through (steps : List Step) :
        steps.map stepData = (steps.map Step.shown).map shownData := by
      rw [List.map_map]
      exact List.map_congr_left fun step _ => stepData_eq step
    rw [through, through]
    exact (List.map_injective_iff.mpr shownData_injective).eq_iff
  simp only [data, Json.obj.injEq, List.map_inj_left, Prod.mk.injEq, Json.arr.injEq, true_and,
    phase_iff]
  exact ⟨fun same phase => same phase (Phase.mem_all phase), fun same phase _ => same phase⟩

theorem dataText_eq_of_data_eq (same : plan.data = other.data) (indent : Option Int) :
    plan.dataText indent = other.dataText indent := by
  rw [dataText, dataText, same]

end Data

theorem parse?_dataText_eq (plan : Plan) (indent : Option Int) :
    Json.parse? (plan.dataText indent) = some plan.data := by
  have spaces : Json.Spaces [] := by simp [Json.Spaces]
  have read := Json.parse?_render_append plan.faithful_data (Json.Layout.ofIndent indent) spaces
  simpa [dataText] using read

/-- The text of a plan's plain data at any indentation is a text of ASCII characters that is read
back as the phases in order, and the steps of each in order with their places and trimmed shell
texts. Two plans have the same text at some indentation exactly if they have it at all of them, and
exactly if these are the same. -/
theorem parse?_dataText (plan : Plan) :
    (∀ indent, (∀ c ∈ (plan.dataText indent).toList, c.toNat < 0x80) ∧
      Json.parse? (plan.dataText indent) = some (.obj (Phase.all.map fun phase =>
        (phase.name, .arr ((plan.steps.get phase).map fun step =>
          .obj [("line_span", .arr [.int step.span.first, .int step.span.last]),
            ("shell", .str (Text.trimString step.shell))]))))) ∧
      ∀ other : Plan, List.TFAE [
        ∃ indent, plan.dataText indent = other.dataText indent,
        ∀ indent, plan.dataText indent = other.dataText indent,
        ∀ phase, (plan.steps.get phase).map (fun step => (step.span, Text.trimString step.shell)) =
          (other.steps.get phase).map (fun step => (step.span, Text.trimString step.shell))] := by
  constructor
  · intro indent
    refine ⟨?_, parse?_dataText_eq plan indent⟩
    have ascii := plan.faithful_data.ascii_chars (Json.Layout.ofIndent indent) 0
    rwa [dataText, Json.render, String.toList_ofList]
  · intro other
    tfae_have 1 → 3 := by
      rintro ⟨indent, same⟩
      have read := parse?_dataText_eq plan indent
      rw [same, parse?_dataText_eq other indent] at read
      exact data_eq_iff.mp (Option.some.inj read).symm
    tfae_have 3 → 2 := fun same => dataText_eq_of_data_eq (data_eq_iff.mpr same)
    tfae_have 2 → 1 := fun same => ⟨none, same none⟩
    tfae_finish

end Plan

end Runbook
