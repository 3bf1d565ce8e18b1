import Runbook.Proofs.Plan.Invalid
import Runbook.Proofs.Schema.Checked
import Runbook.Proofs.Schema.Record

/-!
# Records loaded again

A record may be given leniently: an integer as a text, a number without a fraction or a boolean,
fields left out, keys that no field has, phases in any order. What is written of the record is its
normal form: it is accepted again and read as the same record. The steps of a plan are written for
all phases in the order in which these run.

## Implementation notes

For results and steps this holds of every record, as their fields have types without lenient
values. The metadata of a plan is decoded data of any kind, so that it is kept only where it came
from plain data; there no key comes twice, since the data of an object is a mapping.
-/

namespace Runbook

namespace Json

/-- Plain data as it is held: its numbers are finite, and no key comes twice in an object. -/
inductive Regular : Json → Prop
  | null : Regular .null
  | bool (b : Bool) : Regular (.bool b)
  | int (i : Int) : Regular (.int i)
  | float {x : Binary64} (finite : x.isFinite = true) : Regular (.float x)
  | str (s : String) : Regular (.str s)
  | halved (codes : List Nat) : Regular (.halved codes)
  | arr {items : List Json} (h : ∀ item ∈ items, Regular item) : Regular (.arr items)
  | obj {members : List (String × Json)} (nodup : (members.map Prod.fst).Nodup)
    (h : ∀ member ∈ members, Regular member.2) : Regular (.obj members)

theorem Regular.of_lookup {members : List (String × Json)} {name : String} {value : Json}
    (h : Regular (.obj members)) (found : lookup name members = some value) : Regular value := by
  obtain @⟨⟩ | @⟨⟩ | @⟨⟩ | @⟨⟩ | @⟨⟩ | @⟨⟩ | @⟨⟩ | ⟨-, h⟩ := h
  induction members with
  | nil => cases found
  | cons member members ih =>
      obtain ⟨own, others⟩ := List.forall_mem_cons.mp h
      rw [lookup] at found
      split at found
      · cases found
        exact own
      · exact ih found others

/-- Different members are gathered as they are. -/
theorem mergeMembers_nil {members : List (String × Json)} (nodup : (members.map Prod.fst).Nodup) :
    mergeMembers [] members = members := mergeMembers_of_nodup nodup

end Json

open Runbook.Field (ReadsBack)

namespace Field

variable {α : Type} {read : Value → Checked α}

theorem itemsFrom_eq_map_ok_iff {position : Nat} {values : List Value} {items : List α} :
    itemsFrom read position values = items.map .ok ↔ values.map read = items.map .ok := by
  induction values generalizing position items with
  | nil => simp [itemsFrom]
  | cons value values ih =>
      cases items with
      | nil => simp [itemsFrom]
      | cons item items => simp [itemsFrom, ih, Checked.under_eq_ok_iff]

/-- A list of plain data is read item by item. -/
theorem list_ofJson_eq_ok_iff {mismatch : Mismatch} {data : Json} {items : List α} :
    list mismatch read (.ofJson data) = .ok items ↔
      ∃ values, data = .arr values ∧
        values.map (fun value => read (.ofJson value)) = items.map .ok := by
  cases data with
  | arr values =>
      simp [Value.ofJson, list, ofJsonItems_eq_map, Checked.all_eq_ok_iff,
        itemsFrom_eq_map_ok_iff, Function.comp_def]
  | _ => simp [Value.ofJson, list, Checked.fail]

theorem mapping_ofJson_eq_ok_iff {mismatch : Mismatch} {data : Json}
    {entries : List (Scalar × Value)} :
    mapping mismatch (.ofJson data) = .ok entries ↔
      ∃ members, data = .obj members ∧ Value.ofJsonMembers members = entries := by
  cases data <;> simp [Value.ofJson, mapping, Checked.fail]

/-- A field with a default is read from its member, or is the default where there is none. -/
theorem optional_ofJsonMembers_eq_ok_iff {name : String} {default a : α}
    {members : List (String × Json)} :
    optional name default read (Value.ofJsonMembers members) = .ok a ↔
      (Json.lookup name members = none ∧ default = a) ∨
        ∃ data, Json.lookup name members = some data ∧ read (.ofJson data) = .ok a := by
  rw [optional, find?_ofJsonMembers]
  cases Json.lookup name members <;> simp [Checked.under_eq_ok_iff]

end Field

namespace Metadata

section Values

theorem itemData?_ofJsonItems {items : List Json}
    (h : ∀ item ∈ items, valueData? (.ofJson item) = some item) :
    itemData? (Value.ofJsonItems items) = some items := by
  induction items with
  | nil => simp [Value.ofJsonItems, itemData?]
  | cons item items ih =>
      obtain ⟨own, others⟩ := List.forall_mem_cons.mp h
      simp [Value.ofJsonItems, itemData?, own, ih others]

theorem entryData?_ofJsonMembers {members : List (String × Json)}
    (h : ∀ member ∈ members, valueData? (.ofJson member.2) = some member.2) :
    entryData? (Value.ofJsonMembers members) = some members := by
  induction members with
  | nil => simp [Value.ofJsonMembers, entryData?]
  | cons member members ih =>
      obtain ⟨own, others⟩ := List.forall_mem_cons.mp h
      simp [Value.ofJsonMembers, entryData?, keyName?, own, ih others]

/-- A decoded value that came from plain data is written as this data. -/
theorem valueData?_ofJson {data : Json} (h : data.Regular) :
    valueData? (.ofJson data) = some data := by
  induction h with
  | null => simp [Value.ofJson, valueData?, scalarData?]
  | bool b => simp [Value.ofJson, valueData?, scalarData?]
  | int i => simp [Value.ofJson, valueData?, scalarData?]
  | float finite => simp [Value.ofJson, valueData?, scalarData?, finite]
  | str s => simp [Value.ofJson, valueData?, scalarData?]
  | halved codes => simp [Value.ofJson, valueData?, scalarData?]
  | arr _ ih => simp [Value.ofJson, valueData?, itemData?_ofJsonItems ih]
  | obj nodup _ ih =>
      simp [Value.ofJson, valueData?, entryData?_ofJsonMembers ih,
        Json.mergeMembers_nil nodup]

end Values

/-- An entry is set as a member is. -/
theorem setEntry_ofJsonMembers (key : String) (data : Json) (members : List (String × Json)) :
    Value.setEntry (.str key) (.ofJson data) (Value.ofJsonMembers members) =
      Value.ofJsonMembers (Json.setMember key data members) := by
  induction members with
  | nil => simp [Value.ofJsonMembers, Value.setEntry, Json.setMember]
  | cons member members ih =>
      obtain ⟨name, old⟩ := member
      simp only [Value.ofJsonMembers, Value.setEntry, Json.setMember, Scalar.sameKey_str_iff,
        Scalar.str.injEq]
      split <;> simp [Value.ofJsonMembers, ih]

/-- Entries are gathered as members are merged. -/
theorem foldl_setEntry_ofJsonMembers (first second : List (String × Json)) :
    (Value.ofJsonMembers second).foldl
        (fun found entry =>
          match textKey entry.1 with
          | .ok key => Value.setEntry key entry.2 found
          | .error _ => found)
        (Value.ofJsonMembers first) =
      Value.ofJsonMembers (Json.mergeMembers first second) := by
  induction second generalizing first with
  | nil => simp [Value.ofJsonMembers, Json.mergeMembers]
  | cons member second ih =>
      obtain ⟨key, data⟩ := member
      have merged : Json.mergeMembers first ((key, data) :: second) =
          Json.mergeMembers (Json.setMember key data first) second := rfl
      rw [merged, ← ih, ← setEntry_ofJsonMembers]
      simp only [Value.ofJsonMembers, List.foldl_cons, textKey]

/-- The metadata that plain data gives are its members. -/
theorem ofEntries_ofJsonMembers {members : List (String × Json)}
    (nodup : (members.map Prod.fst).Nodup) :
    ofEntries (Value.ofJsonMembers members) = .ok (Value.ofJsonMembers members) := by
  have unproblematic : (Value.ofJsonMembers members).filterMap
      (fun entry => keyProblem? entry.1) = [] := by
    rw [List.filterMap_eq_nil_iff]
    intro entry mem
    have text : entry.1.isText = true := by
      clear nodup
      induction members with
      | nil => cases mem
      | cons member members ih =>
          obtain rfl | mem := List.mem_cons.mp mem
          · rfl
          · exact ih mem
    exact keyProblem?_of_isText text
  rw [ofEntries, unproblematic]
  have gathered := foldl_setEntry_ofJsonMembers [] members
  rw [Json.mergeMembers_nil nodup] at gathered
  exact congrArg Except.ok gathered

theorem mapM_topMember?_ofJsonMembers {members written : List (String × Json)}
    (h : ∀ member ∈ members, member.2.Regular)
    (wrote : (Value.ofJsonMembers members).mapM topMember? = some written) : written = members := by
  induction members generalizing written with
  | nil => simpa [Value.ofJsonMembers, eq_comm] using wrote
  | cons member members ih =>
      obtain ⟨own, others⟩ := List.forall_mem_cons.mp h
      simp only [Value.ofJsonMembers, List.mapM_cons, Option.bind_eq_bind,
        Option.bind_eq_some_iff, Option.pure_def, Option.some.injEq] at wrote
      obtain ⟨first, top, rest, more, rfl⟩ := wrote
      have kept : first = member := by
        rw [topMember?] at top
        split at top
        · cases top
        · simpa [topName?, keyName?, valueData?_ofJson own] using top.symm
      rw [kept, ih others more]

/-- Metadata that plain data gave is written as this data, if it can be written. -/
theorem eq_of_data?_ofJsonMembers {members : List (String × Json)} {written : Json}
    (h : (Json.obj members).Regular)
    (wrote : data? (Value.ofJsonMembers members) = some written) : written = .obj members := by
  cases h with
  | obj nodup regular =>
      obtain ⟨others, top, rfl⟩ := Option.map_eq_some_iff.mp wrote
      rw [mapM_topMember?_ofJsonMembers regular top, Json.mergeMembers_nil nodup]

end Metadata

theorem Span.readsBack : ReadsBack Span.ofValue Span.data := fun _ => rfl

theorem Directive.readsBack : ReadsBack Directive.ofValue Directive.data := by
  intro directive
  rw [data, Value.ofJson, ofValue]
  simp only [Field.mapping, Checked.bind_eq_ok_iff, Checked.both_eq_ok_iff]
  refine ⟨_, rfl, (directive.kind, directive.params, directive.source, directive.span,
    directive.content), ⟨?_, ?_, ?_, ?_, ?_⟩, rfl⟩
  · exact Field.required_of_lookup Field.readsBack_text rfl
  · exact Field.optional_of_lookup (Field.readsBack_text.list .tupleType) rfl []
  · exact Field.required_of_lookup Field.readsBack_text rfl
  · exact Field.required_of_lookup Span.readsBack rfl
  · exact Field.optional_of_lookup Field.readsBack_text rfl ""

theorem Step.readsBack : ReadsBack Step.ofValue Step.data := by
  intro step
  rw [data, Value.ofJson, ofValue]
  simp only [Field.mapping, Checked.bind_eq_ok_iff, Checked.both_eq_ok_iff]
  refine ⟨_, rfl, (step.source, step.span, step.shell), ⟨?_, ?_, ?_⟩, rfl⟩
  · exact Field.required_of_lookup Field.readsBack_text rfl
  · exact Field.required_of_lookup Span.readsBack rfl
  · exact Field.required_of_lookup Field.readsBack_text rfl

theorem RunResult.readsBack : ReadsBack RunResult.ofValue RunResult.data := fun result =>
  result.ofValue_of_lookup fun _ _ found => found

namespace Plan

/-- What plain data gives for a phase of a plan. -/
def given? (data : Json) (phase : Phase) : Option Json :=
  (data.get? "steps_in_phases").bind (Json.get? phase.name)

/-- The steps that plain data gives for a phase: none if the phase is not there, and otherwise those
that the items of a list are read as, in their order. -/
inductive Gives (data : Json) (phase : Phase) : List Step → Prop
  | absent (none : given? data phase = none) : Gives data phase []
  | listed {items : List Json} {steps : List Step} (found : given? data phase = some (.arr items))
    (read : items.map (fun item => Step.ofValue (.ofJson item)) = steps.map .ok) :
    Gives data phase steps

section Reading

/-- The parts of plain data that a plan is read from. -/
theorem exists_of_ofValue {data : Json} {plan : Plan} (read : ofValue (.ofJson data) = .ok plan) :
    ∃ members, data = .obj members ∧
      Field.optional "metadata" [] metadataOfValue (Value.ofJsonMembers members) =
        .ok plan.metadata ∧
      Field.optional "steps_in_phases" (PerPhase.ofFn fun _ => []) stepsOfValue
        (Value.ofJsonMembers members) = .ok plan.steps := by
  simp only [ofValue, Checked.bind_eq_ok_iff, Field.mapping_ofJson_eq_ok_iff,
    Checked.both_eq_ok_iff] at read
  obtain ⟨_, ⟨members, rfl, rfl⟩, ⟨metadata, requiredVars, steps⟩, ⟨first, second, third⟩, same⟩ :=
    read
  cases same
  exact ⟨members, rfl, first, third⟩

/-- The metadata of a plan that plain data gives are members of regular data. -/
theorem exists_metadata_of_read {members : List (String × Json)} {metadata : Metadata}
    (regular : (Json.obj members).Regular)
    (read : Field.optional "metadata" [] metadataOfValue (Value.ofJsonMembers members) =
      .ok metadata) :
    ∃ entries, (Json.obj entries).Regular ∧ metadata = Value.ofJsonMembers entries := by
  obtain ⟨-, rfl⟩ | ⟨data, found, read⟩ := Field.optional_ofJsonMembers_eq_ok_iff.mp read
  · exact ⟨[], .obj (by simp) (by simp), by rw [Value.ofJsonMembers]⟩
  · simp only [metadataOfValue, Checked.bind_eq_ok_iff, Field.mapping_ofJson_eq_ok_iff] at read
    obtain ⟨_, ⟨entries, rfl, rfl⟩, read⟩ := read
    have kept := regular.of_lookup found
    cases kept with
    | obj nodup all =>
        rw [Metadata.ofEntries_ofJsonMembers nodup] at read
        exact ⟨entries, .obj nodup all, (Except.ok.inj read).symm⟩

theorem phaseOfKey_eq_ok_iff {key : String} {phase : Phase} :
    phaseOfKey (.str key) = .ok phase ↔ key = phase.name := by
  rw [← Phase.ofName?_eq_some_iff]
  cases found : Phase.ofName? key <;>
    simp [phaseOfKey, Checked.under_eq_ok_iff, Phase.ofValue, Field.named, Checked.fail, found]

/-- The steps found for a phase are those of the member with its name. -/
theorem lookup_of_all {members : List (String × Json)} {found : List (Phase × List Step)}
    (read : Checked.all ((Value.ofJsonMembers members).map phaseEntry) = .ok found)
    (phase : Phase) :
    (Json.lookup phase.name members = none ∧ found.lookup phase = none) ∨
      ∃ items steps, Json.lookup phase.name members = some (.arr items) ∧
        found.lookup phase = some steps ∧
        items.map (fun item => Step.ofValue (.ofJson item)) = steps.map .ok := by
  induction members generalizing found with
  | nil =>
      cases found with
      | nil => exact .inl ⟨rfl, rfl⟩
      | cons entry found => simp [Value.ofJsonMembers, Checked.all] at read
  | cons member members ih =>
      obtain ⟨key, data⟩ := member
      rw [Checked.all_eq_ok_iff] at read
      cases found with
      | nil => simp [Value.ofJsonMembers] at read
      | cons entry found =>
          obtain ⟨named, steps⟩ := entry
          simp only [Value.ofJsonMembers, List.map_cons, List.cons.injEq, phaseEntry,
            Checked.both_eq_ok_iff, Checked.under_eq_ok_iff, phaseOfKey_eq_ok_iff,
            Field.list_ofJson_eq_ok_iff] at read
          obtain ⟨⟨rfl, items, rfl, listed⟩, others⟩ := read
          by_cases same : named = phase
          · subst same
            refine .inr ⟨items, steps, ?_, ?_, listed⟩
            · rw [Json.lookup, if_pos rfl]
            · simp
          · have apart : named.name ≠ phase.name := fun h => same (Phase.name_inj.mp h)
            have unequal : (phase == named) = false := by simpa using Ne.symm same
            rw [Json.lookup, if_neg apart, List.lookup_cons, unequal]
            exact ih (Checked.all_eq_ok_iff.mpr others)

/-- A plan has the steps that plain data gives for its phases. -/
theorem gives_of_read {members : List (String × Json)} {steps : PerPhase (List Step)}
    (read : Field.optional "steps_in_phases" (PerPhase.ofFn fun _ => []) stepsOfValue
      (Value.ofJsonMembers members) = .ok steps) (phase : Phase) :
    Gives (.obj members) phase (steps.get phase) := by
  obtain ⟨none, rfl⟩ | ⟨data, found, read⟩ := Field.optional_ofJsonMembers_eq_ok_iff.mp read
  · rw [PerPhase.get_ofFn]
    exact .absent (by simp [given?, Json.get?, none])
  · simp only [stepsOfValue, Checked.bind_eq_ok_iff, Field.mapping_ofJson_eq_ok_iff] at read
    obtain ⟨_, ⟨inner, rfl, rfl⟩, entries, all, same⟩ := read
    have outer : given? (.obj members) phase = Json.lookup phase.name inner := by
      simp [given?, Json.get?, found]
    obtain rfl : _ = steps := Except.ok.inj same
    rw [PerPhase.get_ofFn]
    obtain ⟨none, unfound⟩ | ⟨items, steps, some, listed, read⟩ := lookup_of_all all phase
    · rw [unfound]
      exact .absent (outer.trans none)
    · rw [listed]
      exact .listed (outer.trans some) read

end Reading

section Writing

/-- The steps of a plan as plain data: all phases, in the order in which they run. -/
def stepsData (steps : PerPhase (List Step)) : Json :=
  .obj (Phase.all.map fun phase => (phase.name, .arr ((steps.get phase).map Step.data)))

theorem phaseEntry_stepsData (phase : Phase) (steps : List Step) :
    phaseEntry (.str phase.name, .ofJson (.arr (steps.map Step.data))) = .ok (phase, steps) := by
  rw [phaseEntry, Checked.both_eq_ok_iff, phaseOfKey_eq_ok_iff, Checked.under_eq_ok_iff]
  exact ⟨rfl, Step.readsBack.list .tupleType steps⟩

theorem readsBack_stepsData : ReadsBack stepsOfValue stepsData := by
  intro steps
  have entries : Value.ofJsonMembers (Phase.all.map fun phase =>
      (phase.name, Json.arr ((steps.get phase).map Step.data))) =
      Phase.all.map fun phase =>
        (.str phase.name, .ofJson (.arr ((steps.get phase).map Step.data))) := by
    simp only [Phase.all, List.map_cons, List.map_nil, Value.ofJsonMembers]
  have found : Checked.all ((Phase.all.map fun phase =>
      (.str phase.name, .ofJson (.arr ((steps.get phase).map Step.data)))).map phaseEntry) =
      .ok (Phase.all.map fun phase => (phase, steps.get phase)) := by
    simp [Checked.all_eq_ok_iff, phaseEntry_stepsData]
  rw [stepsOfValue, stepsData, Value.ofJson, entries]
  simp only [Field.mapping, Checked.bind_eq_ok_iff]
  exact ⟨_, rfl, _, found, rfl⟩

/-- A plan that plain data gave is read back from what is written of it. -/
theorem ofValue_of_record? {members : List (String × Json)} {plan : Plan} {written : Json}
    (regular : (Json.obj members).Regular)
    (metadata : Field.optional "metadata" [] metadataOfValue (Value.ofJsonMembers members) =
      .ok plan.metadata)
    (wrote : plan.record? = some written) :
    ofValue (.ofJson written) = .ok plan ∧
      written.get? "steps_in_phases" = some (stepsData plan.steps) := by
  obtain ⟨entries, kept, gave⟩ := exists_metadata_of_read regular metadata
  obtain ⟨data, top, rfl⟩ := Option.map_eq_some_iff.mp wrote
  rw [gave] at top
  obtain rfl := Metadata.eq_of_data?_ofJsonMembers kept top
  refine ⟨?_, by simp [Json.get?, Json.lookup, stepsData]⟩
  cases kept with
  | obj nodup _ =>
    have again : metadataOfValue (.ofJson (.obj entries)) = .ok plan.metadata := by
      rw [metadataOfValue, Value.ofJson, Field.mapping, gave]
      exact Metadata.ofEntries_ofJsonMembers nodup
    rw [Value.ofJson, ofValue]
    simp only [Field.mapping, Checked.bind_eq_ok_iff, Checked.both_eq_ok_iff]
    refine ⟨_, rfl, (plan.metadata, plan.requiredVars, plan.steps), ⟨?_, ?_, ?_⟩, rfl⟩
    · exact Field.optional_ofJsonMembers_eq_ok_iff.mpr (.inr ⟨_, rfl, again⟩)
    · exact Field.optional_of_lookup (Field.readsBack_text.list .tupleType) rfl []
    · exact Field.optional_of_lookup readsBack_stepsData rfl _

end Writing

end Plan

/-- The kinds of records that can be given as plain data. -/
inductive RecordKind where
  | directive
  | step
  | stepResult
  | plan
  | runResult
  deriving DecidableEq, Repr

/-- A record of one of the kinds. -/
inductive Record where
  | directive (directive : Directive)
  | step (step : Step)
  | stepResult (result : StepResult)
  | plan (plan : Plan)
  | runResult (result : RunResult)

namespace Record

/-- Reads a record of a kind. -/
def ofValue (kind : RecordKind) (value : Value) : Checked Record :=
  match kind with
  | .directive => (Directive.ofValue value).map .directive
  | .step => (Step.ofValue value).map .step
  | .stepResult => (StepResult.ofValue value).map .stepResult
  | .plan => (Plan.ofValue value).map .plan
  | .runResult => (RunResult.ofValue value).map .runResult

/-- A record as plain data with all its fields, if it can be written. -/
def data? : Record → Option Json
  | .directive record => some record.data
  | .step record => some record.data
  | .stepResult record => some record.data
  | .plan record => record.record?
  | .runResult record => some record.data

/-- What is written of a record that plain data gave is read as the same record, so that all that is
shown of it, and what is written of it, is the same again. For a plan it lists the steps of every
phase in the order in which the phases run, and these are the steps that were given. -/
theorem ofValue_data? {kind : RecordKind} {data written : Json} {record : Record}
    (regular : data.Regular) (read : ofValue kind (.ofJson data) = .ok record)
    (wrote : record.data? = some written) :
    ofValue kind (.ofJson written) = .ok record ∧
      ∀ plan, record = .plan plan →
        written.get? "steps_in_phases" = some (.obj (Phase.all.map fun phase =>
          (phase.name, .arr ((plan.steps.get phase).map Step.data)))) ∧
        ∀ phase, Plan.Gives data phase (plan.steps.get phase) := by
  cases kind with
  | directive =>
      obtain ⟨directive, -, rfl⟩ := Checked.map_eq_ok_iff.mp read
      cases wrote
      exact ⟨Checked.map_eq_ok_iff.mpr ⟨_, Directive.readsBack directive, rfl⟩, nofun⟩
  | step =>
      obtain ⟨step, -, rfl⟩ := Checked.map_eq_ok_iff.mp read
      cases wrote
      exact ⟨Checked.map_eq_ok_iff.mpr ⟨_, Step.readsBack step, rfl⟩, nofun⟩
  | stepResult =>
      obtain ⟨result, -, rfl⟩ := Checked.map_eq_ok_iff.mp read
      cases wrote
      exact ⟨Checked.map_eq_ok_iff.mpr ⟨_, StepResult.readsBack result, rfl⟩, nofun⟩
  | runResult =>
      obtain ⟨result, -, rfl⟩ := Checked.map_eq_ok_iff.mp read
      cases wrote
      exact ⟨Checked.map_eq_ok_iff.mpr ⟨_, RunResult.readsBack result, rfl⟩, nofun⟩
  | plan =>
      obtain ⟨plan, planned, rfl⟩ := Checked.map_eq_ok_iff.mp read
      obtain ⟨members, rfl, metadata, steps⟩ := Plan.exists_of_ofValue planned
      obtain ⟨again, listed⟩ := Plan.ofValue_of_record? regular metadata wrote
      refine ⟨Checked.map_eq_ok_iff.mpr ⟨_, again, rfl⟩, ?_⟩
      rintro _ ⟨⟩
      exact ⟨listed, Plan.gives_of_read steps⟩

end Record

section Lenient

/-- A step in plain data whose lines are given as a boolean and as a text, with a key that is no
field. -/
def lenientStep : Json :=
  .obj [("shell", .str "make"), ("note", .null), ("source_name", .str "d.md"),
    ("line_span", .arr [.bool true, .str " +0_3.0"])]

/-- A plan in plain data with the phases out of order, and two of them left out. -/
def lenientPlan : Json :=
  .obj [("steps_in_phases", .obj [("run-tests", .arr [lenientStep]), ("pre-install", .arr [])]),
    ("metadata", .obj [("deployDoc", .bool true), ("tries", .int 2)])]

/-- The plan that it gives. -/
def strictPlan : Plan where
  metadata := [(.str "deployDoc", .scalar (.bool true)), (.str "tries", .scalar (.int 2))]
  requiredVars := []
  steps := ⟨[], [], [⟨"d.md", ⟨1, 3⟩, "make"⟩], []⟩

theorem Json.regular_lenientPlan : lenientPlan.Regular := by
  have step : lenientStep.Regular := by
    refine .obj (by decide) ?_
    simp only [List.forall_mem_cons, List.not_mem_nil, false_implies, implies_true, and_true]
    refine ⟨.str _, .null, .str _, .arr ?_⟩
    simp only [List.forall_mem_cons, List.not_mem_nil, false_implies, implies_true, and_true]
    exact ⟨.bool _, .str _⟩
  have phases : (Json.obj [("run-tests", .arr [lenientStep]), ("pre-install", .arr [])]).Regular :=
    .obj (by decide) (by simp [step, Regular.arr])
  have metadata : (Json.obj [("deployDoc", .bool true), ("tries", .int 2)]).Regular :=
    .obj (by decide) (by simp [Regular.bool, Regular.int])
  exact .obj (by decide) (by simp [phases, metadata])

/-- What is written of the plan is read as the same plan. -/
theorem Record.ofValue_data?_lenientPlan :
    ofValue .plan (.ofJson lenientPlan) = .ok (.plan strictPlan) ∧
      ∃ written, (plan strictPlan).data? = some written ∧
        ofValue .plan (.ofJson written) = .ok (.plan strictPlan) := by
  have given : Plan.ofValue (.ofJson lenientPlan) = .ok strictPlan := rfl
  have read : ofValue .plan (.ofJson lenientPlan) = .ok (.plan strictPlan) :=
    Checked.map_eq_ok_iff.mpr ⟨strictPlan, given, rfl⟩
  obtain ⟨written, wrote⟩ : ∃ written, (plan strictPlan).data? = some written :=
    ⟨.obj [("metadata", .obj [("deployDoc", .bool true), ("tries", .int 2)]),
      ("required_env_vars", .strings []), ("steps_in_phases", Plan.stepsData strictPlan.steps)],
      rfl⟩
  have again := ofValue_data? Json.regular_lenientPlan read wrote
  exact ⟨read, written, wrote, again.1⟩

end Lenient

end Runbook
