/-!
# Phases

The four stages of a run, in the order in which they run. A value for each phase is kept in a
structure, so that no phase can be missing.
-/

namespace Runbook

/-- A stage of a run. -/
inductive Phase where
  | preInstall
  | createInfrastructure
  | runTests
  | destroyInfrastructure
  deriving DecidableEq, Repr

namespace Phase

/-- The phases in the order in which they run. -/
def all : List Phase := [preInstall, createInfrastructure, runTests, destroyInfrastructure]

/-- The phases whose failure leaves the cleanup to be done. -/
def protectedPhases : List Phase := [createInfrastructure, runTests]

/-- The name of a phase, as documents and reports write it. -/
def name : Phase → String
  | preInstall => "pre-install"
  | createInfrastructure => "create-infrastructure"
  | runTests => "run-tests"
  | destroyInfrastructure => "destroy-infrastructure"

/-- The phase with the given name. -/
def ofName? (s : String) : Option Phase := all.find? fun phase => phase.name = s

end Phase

/-- A value for each phase. -/
structure PerPhase (α : Type) where
  preInstall : α
  createInfrastructure : α
  runTests : α
  destroyInfrastructure : α
  deriving DecidableEq, Repr

namespace PerPhase

variable {α : Type}

/-- The value for a phase. -/
def get (values : PerPhase α) : Phase → α
  | .preInstall => values.preInstall
  | .createInfrastructure => values.createInfrastructure
  | .runTests => values.runTests
  | .destroyInfrastructure => values.destroyInfrastructure

/-- The values that a function gives for the phases. -/
def ofFn (f : Phase → α) : PerPhase α :=
  ⟨f .preInstall, f .createInfrastructure, f .runTests, f .destroyInfrastructure⟩

@[simp] theorem get_ofFn (f : Phase → α) (phase : Phase) : (ofFn f).get phase = f phase := by
  cases phase <;> rfl

end PerPhase

end Runbook
