import Reconciler.Task.Basic

namespace Reconciler

/-!
# Results of tasks

* `TaskPhase`, `ResultKind`, `TaskOutcome` — how a task ended, what it was, and what
  it reports;
* `TaskResult` — the result of one task, and its written form;
* `Delta` — the resources that tasks contribute, which are concatenated.
-/

/-- How a task ended. -/
inductive TaskPhase where
  | online
  | skipped
  | error
  | passed
  | failed
deriving DecidableEq, Repr

/-- The name of a phase. -/
def TaskPhase.name : TaskPhase → String
  | online => "Online"
  | skipped => "Skipped"
  | error => "Error"
  | passed => "Passed"
  | failed => "Failed"

/-- The phase of a task whose plan ended in this phase. -/
def TaskPhase.ofPlan : PlanPhase → TaskPhase
  | .online => online
  | .skipped => skipped

/-- What a task was. -/
inductive ResultKind where
  | createOrDelete
  | update
  | assert
deriving DecidableEq, Repr

/-- The name of a kind. -/
def ResultKind.name : ResultKind → String
  | createOrDelete => "createOrDelete"
  | update => "update"
  | assert => "assert"

/-- What a task reports. -/
inductive TaskOutcome where
  | create (report : CreateReport)
  | delete (report : DeleteReport)
  | update (report : UpdateReport)
  | assert (outcome : AssertionOutcome)
deriving DecidableEq

/-- The result of a task.  A task that was not carried out has no kind and no
    outcome. -/
structure TaskResult where
  key : String
  desc : Option String
  phase : TaskPhase
  message : String
  kind : Option ResultKind
  outcome : Option TaskOutcome
deriving DecidableEq

/-- The task ended without an error; a failed assertion is none. -/
def TaskResult.completed (r : TaskResult) : Bool :=
  r.phase != .error

/-- The resources that tasks contribute. -/
structure Delta where
  /-- Resources that the host keeps for the watch. -/
  desired : List Resource
  /-- Resources of others that the host must change. -/
  explicitUpdates : List Resource
  /-- Resources of others that the host must delete. -/
  explicitDeletes : List Resource

namespace Delta

/-- No resource. -/
def empty : Delta := ⟨[], [], []⟩

/-- The resources of both, in this order. -/
def append (d e : Delta) : Delta :=
  ⟨d.desired ++ e.desired, d.explicitUpdates ++ e.explicitUpdates,
    d.explicitDeletes ++ e.explicitDeletes⟩

instance : Append Delta := ⟨append⟩

/-- The resources of all, in their order. -/
def concat (ds : List Delta) : Delta :=
  ds.foldr append empty

end Delta

/-! ### Wire form -/

open Wire

/-- Writes an answer to an assertion. -/
def AssertionOutcome.encode (o : AssertionOutcome) : Document :=
  ofParts [("conditionsEvaluated", some (.nat o.evaluated)), ("success", some (.bool o.success))]

/-- Writes what a task reports. -/
def TaskOutcome.encode : TaskOutcome → Document
  | create report => report.encode
  | delete report => report.encode
  | update report => report.encode
  | assert outcome => outcome.encode

/-- Writes a result. -/
def TaskResult.encode (r : TaskResult) : Document :=
  ofParts [("desc", r.desc.map .str), ("key", some (.str r.key)),
    ("kind", r.kind.map (.str ·.name)), ("message", some (.str r.message)),
    ("outcome", r.outcome.map TaskOutcome.encode), ("phase", some (.str r.phase.name))]

end Reconciler
