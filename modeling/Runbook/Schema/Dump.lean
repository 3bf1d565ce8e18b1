import Runbook.Plan.Basic
import Runbook.Run.Result

/-!
# Records as plain data

Every record can be written as plain data with its fields in order. Decoded values lose what plain
data cannot say: a number that is not finite becomes null, bytes and moments become text, tuples
and sets become lists, and keys become strings. Bytes that are no text, keys with halves of
characters, values of too many levels, and references to an enclosing container cannot be written.
-/

namespace Runbook

namespace Metadata

/-- The text that bytes encode. -/
def bytesString? (bytes : List UInt8) : Option String :=
  match Text.decodeUtf8 bytes with
  | .ok chars => some (String.ofList chars)
  | .error _ => none

/-- A scalar as plain data. -/
def scalarData? : Scalar → Option Json
  | .null => some .null
  | .bool b => some (.bool b)
  | .int i => some (.int i)
  | .float x => some (if x.isFinite then .float x else .null)
  | .str s => some (.str s)
  | .halved codes => some (.halved codes)
  | .bytes bytes => (bytesString? bytes).map .str
  | .date d => some (.str d.iso)
  | .time t => some (.str t.iso)
  | .moment m => some (.str m.isoUniversal)

/-- A key as the name of a member; a number that is not finite counts as null. -/
def keyName? : Scalar → Option String
  | .null => some "None"
  | .bool b => some (if b then "true" else "false")
  | .int i => some (decimalText i)
  | .float x => some (if x.isFinite then x.text else "None")
  | .str s => some s
  | .halved _ => none
  | .bytes bytes => bytesString? bytes
  | .date d => some d.iso
  | .time t => some t.iso
  | .moment m => some m.isoUniversal

mutual

/-- A decoded value as plain data. -/
def valueData? : Value → Option Json
  | .scalar s => scalarData? s
  | .list items => (itemData? items).map .arr
  | .tuple items => (itemData? items).map .arr
  | .set items => (items.mapM scalarData?).map .arr
  | .map entries => (entryData? entries).map fun members => .obj (Json.mergeMembers [] members)
  | .enclosing _ => none

/-- Each item as plain data. -/
def itemData? : List Value → Option (List Json)
  | [] => some []
  | item :: items =>
    match valueData? item, itemData? items with
    | some data, some rest => some (data :: rest)
    | _, _ => none

/-- Each entry as a member. -/
def entryData? : List (Scalar × Value) → Option (List (String × Json))
  | [] => some []
  | (key, value) :: entries =>
    match keyName? key, valueData? value, entryData? entries with
    | some name, some data, some rest => some ((name, data) :: rest)
    | _, _, _ => none

end

/-- The most levels of a value that is written. -/
def maxLevels : Nat := 255

/-- The character that stands for an octet that is no text. -/
def replacement : Char := '\uFFFD'

/-- A key of the metadata as the name of a member; half a character is three octets that are no
text. -/
def topName? : Scalar → Option String
  | .halved codes =>
    some (String.ofList (codes.flatMap fun n =>
      if 0xD800 ≤ n ∧ n < 0xE000 then List.replicate 3 replacement else [Char.ofNat n]))
  | key => keyName? key

/-- An entry of the metadata as a member. -/
def topMember? (entry : Scalar × Value) : Option (String × Json) :=
  if maxLevels < entry.2.levels then none
  else (topName? entry.1).bind fun name => (valueData? entry.2).map fun data => (name, data)

/-- The metadata as plain data. -/
def data? (metadata : Metadata) : Option Json :=
  (metadata.mapM topMember?).map fun members => .obj (Json.mergeMembers [] members)

end Metadata

/-- A span as plain data. -/
def Span.data (span : Span) : Json := .arr [.int span.first, .int span.last]

/-- A directive as plain data. -/
def Directive.data (directive : Directive) : Json :=
  .obj [("kind", .str directive.kind), ("params", .strings directive.params),
    ("source_name", .str directive.source), ("line_span", directive.span.data),
    ("content", .str directive.content)]

/-- A step as plain data. -/
def Step.data (step : Step) : Json :=
  .obj [("source_name", .str step.source), ("line_span", step.span.data),
    ("shell", .str step.shell)]

/-- An integer that may be absent as plain data. -/
def optionalInt : Option Int → Json
  | some i => .int i
  | none => .null

/-- The result of a step as plain data. -/
def StepResult.data (result : StepResult) : Json :=
  .obj [("phase", .str result.phase.name), ("step", .str result.step),
    ("exit_code", optionalInt result.exitCode), ("duration_ms", .int result.durationMs)]

/-- The members of the result of a run as plain data. -/
def RunResult.members (result : RunResult) : List (String × Json) :=
  [("outcome", .str result.outcome.name),
    ("phases_run", .strings (result.phasesRun.map Phase.name)),
    ("steps", .arr (result.steps.map StepResult.data)),
    ("failure", match result.failure with
      | some message => .str message
      | none => .null)]

/-- The result of a run as plain data. -/
def RunResult.data (result : RunResult) : Json := .obj result.members

/-- A plan as plain data with all its fields, if its metadata can be written. -/
def Plan.record? (plan : Plan) : Option Json :=
  plan.metadata.data?.map fun metadata =>
    .obj [("metadata", metadata), ("required_env_vars", .strings plan.requiredVars),
      ("steps_in_phases",
        .obj (Phase.all.map fun phase =>
          (phase.name, .arr ((plan.steps.get phase).map Step.data))))]

end Runbook
