import Runbook.Plan.Outline
import Runbook.Proofs.Json.RoundTrip
import Runbook.Proofs.Plan.Order
import Runbook.Proofs.Schema.Checked
import Runbook.Schema.Dump
import Runbook.Schema.Record

/-!
# Results read back

A reader takes what its writer wrote back to the value; lists, absent values and records inherit
this from their parts. So the result of a run is read back from its members, also when there is one
more member that is none of its fields. What is written of results and plans is kept by its text.
-/

namespace Runbook

namespace Field

variable {α : Type}

/-- The reader takes every written value back. -/
def ReadsBack (read : Value → Checked α) (write : α → Json) : Prop :=
  ∀ a, read (.ofJson (write a)) = .ok a

theorem readsBack_text : ReadsBack text Json.str := fun _ => rfl

theorem readsBack_int : ReadsBack int Json.int := fun _ => rfl

theorem readsBack_named {ofName? : String → Option α} {name : α → String}
    (h : ∀ a, ofName? (name a) = some a) : ReadsBack (named ofName?) fun a => .str (name a) := by
  intro a
  simp only [Value.ofJson, named, h a]

theorem ofJsonItems_eq_map (items : List Json) : Value.ofJsonItems items = items.map .ofJson := by
  induction items with
  | nil => simp [Value.ofJsonItems]
  | cons item items ih => simp [Value.ofJsonItems, ih]

theorem all_itemsFrom {read : Value → Checked α} {write : α → Json} (h : ReadsBack read write)
    (position : Nat) (items : List α) :
    Checked.all (itemsFrom read position (items.map fun a => .ofJson (write a))) = .ok items := by
  induction items generalizing position with
  | nil => rfl
  | cons item items ih =>
      rw [List.map_cons, itemsFrom, Checked.all, ih, h item]
      rfl

theorem ReadsBack.list {read : Value → Checked α} {write : α → Json} (h : ReadsBack read write)
    (mismatch : Mismatch) :
    ReadsBack (Field.list mismatch read) fun items => .arr (items.map write) := by
  intro items
  simp only [Value.ofJson, ofJsonItems_eq_map, List.map_map, Field.list]
  exact all_itemsFrom h 0 items

/-- A field is read from the members of an object. -/
theorem find?_ofJsonMembers (name : String) (members : List (String × Json)) :
    Value.find? (.str name) (Value.ofJsonMembers members) =
      (Json.lookup name members).map .ofJson := by
  induction members with
  | nil => simp [Value.ofJsonMembers, Value.find?, Json.lookup]
  | cons member members ih =>
      obtain ⟨key, value⟩ := member
      simp only [Value.ofJsonMembers, Value.find?, Json.lookup, Scalar.sameKey_str_iff,
        Scalar.str.injEq]
      split <;> simp [ih]

variable {read : Value → Checked α} {write : α → Json} (h : ReadsBack read write) {name : String}
  {members : List (String × Json)} {a : α} (found : Json.lookup name members = some (write a))
include h found

theorem required_of_lookup : required name read (Value.ofJsonMembers members) = .ok a := by
  rw [required, find?_ofJsonMembers, found]
  simp only [Option.map_some, h a]
  rfl

theorem optional_of_lookup (default : α) :
    optional name default read (Value.ofJsonMembers members) = .ok a := by
  rw [optional, find?_ofJsonMembers, found]
  simp only [Option.map_some, h a]
  rfl

end Field

open Runbook.Field (ReadsBack)

theorem Outcome.ofName?_name (outcome : Outcome) : ofName? outcome.name = some outcome := by
  cases outcome <;> decide

theorem Phase.readsBack : ReadsBack Phase.ofValue fun phase => .str phase.name :=
  Field.readsBack_named fun _ => Phase.ofName?_eq_some_iff.mpr rfl

theorem readsBack_optionalInt : ReadsBack (Field.nullable Field.int) optionalInt := by
  intro i
  cases i <;> rfl

theorem StepResult.readsBack : ReadsBack StepResult.ofValue StepResult.data := by
  intro result
  have fields : Value.ofJson result.data = .map (Value.ofJsonMembers
      [("phase", .str result.phase.name), ("step", .str result.step),
        ("exit_code", optionalInt result.exitCode), ("duration_ms", .int result.durationMs)]) := by
    rw [data, Value.ofJson]
  rw [fields, ofValue]
  simp only [Field.mapping]
  change (do
    let fields ← Checked.both _ (.both _ (.both _ _))
    return (⟨fields.1, fields.2.1, fields.2.2.1, fields.2.2.2⟩ : StepResult)) = _
  rw [Field.required_of_lookup Phase.readsBack (a := result.phase) rfl,
    Field.required_of_lookup Field.readsBack_text (a := result.step) rfl,
    Field.required_of_lookup readsBack_optionalInt (a := result.exitCode) rfl,
    Field.optional_of_lookup Field.readsBack_int (a := result.durationMs) rfl]
  rfl

/-- The failure of a result as plain data. -/
theorem readsBack_failure : ReadsBack (Field.nullable Field.text) fun failure =>
    match failure with
    | some message => .str message
    | none => .null := by
  intro failure
  cases failure <;> rfl

/-- The result of a run is read from members among which its own ones are found. -/
theorem RunResult.ofValue_of_lookup (result : RunResult) {members : List (String × Json)}
    (found : ∀ name value, Json.lookup name result.members = some value →
      Json.lookup name members = some value) :
    ofValue (.ofJson (.obj members)) = .ok result := by
  have fields : Value.ofJson (.obj members) = .map (Value.ofJsonMembers members) := by
    rw [Value.ofJson]
  have outcome := Field.readsBack_named Outcome.ofName?_name
  have phases := Phase.readsBack.list .listType
  have steps := StepResult.readsBack.list .listType
  rw [fields, ofValue]
  simp only [Field.mapping]
  change (do
    let fields ← Checked.both _ (.both _ (.both _ _))
    return (⟨fields.1, fields.2.1, fields.2.2.1, fields.2.2.2⟩ : RunResult)) = _
  rw [Field.required_of_lookup outcome (a := result.outcome) (found _ _ rfl),
    Field.optional_of_lookup phases (a := result.phasesRun) (found _ _ ?_),
    Field.optional_of_lookup steps (a := result.steps) (found _ _ rfl),
    Field.optional_of_lookup readsBack_failure (a := result.failure) (found _ _ rfl)]
  · rfl
  · simp [RunResult.members, Json.lookup, Json.strings, Function.comp_def]

section Faithful

open Json (Faithful)

theorem faithful_optionalInt (i : Option Int) : Faithful (optionalInt i) := by
  cases i with
  | none => exact .null
  | some i => exact .int i

theorem Plan.faithful_stepData (step : Step) : Faithful (stepData step) := by
  refine .obj (by simp) ?_
  simp only [List.forall_mem_cons, List.not_mem_nil, false_implies, implies_true, and_true]
  refine ⟨.arr ?_, .str _⟩
  simp only [List.forall_mem_cons, List.not_mem_nil, false_implies, implies_true, and_true]
  exact ⟨.int _, .int _⟩

/-- The names of the phases are all different. -/
theorem Phase.nodup_names : (Phase.all.map Phase.name).Nodup := by decide

/-- The plain data of a plan is kept by its text. -/
theorem Plan.faithful_data (plan : Plan) : Faithful plan.data := by
  refine .obj ?_ fun member mem => ?_
  · rw [List.map_map]
    exact Phase.nodup_names
  · obtain ⟨phase, -, rfl⟩ := List.mem_map.mp mem
    refine .arr fun item mem => ?_
    obtain ⟨step, -, rfl⟩ := List.mem_map.mp mem
    exact faithful_stepData step

theorem StepResult.faithful_data (result : StepResult) : Faithful result.data := by
  refine .obj (by simp) ?_
  simp only [List.forall_mem_cons, List.not_mem_nil, false_implies, implies_true, and_true]
  exact ⟨.str _, .str _, faithful_optionalInt _, .int _⟩

end Faithful

end Runbook
