import Reconciler.Plan.CreateOrDelete
import Reconciler.Plan.Update
import Reconciler.Selector.Assertion

namespace Reconciler

/-!
# Tasks

A task either asserts something about the observed resources or applies a document
to them.  A document with a target is a patch, and without one a template.

* `Task`, `RunSpec` — as they are written;
* `TaskError` — why a task has no result;
* `Task.validate` — the faults of a task by itself, and its number of replicas.
-/

/-- One unit of work. -/
structure Task where
  key : String
  desc : Option String
  /-- The task is carried out only if this succeeds. -/
  guard : Option Assertion
  assert : Option Assertion
  apply : Option Document
  target : Option Selector
  replicas : Option Int32

/-- The tasks of a run, in their order. -/
structure RunSpec where
  tasks : List Task
  /-- The run is carried out only if this succeeds. -/
  guard : Option Assertion

/-- A run without tasks. -/
def RunSpec.empty : RunSpec := ⟨[], none⟩

/-- Why a task has no result. -/
inductive TaskError where
  | emptyKey
  | assertXorApply
  | targetWithoutApply
  | assertWithTarget
  | replicasWithTarget
  | replicasWithAssert
  | negativeReplicas (n : Int32)
  | tooManyReplicas (replicas max : UInt32)
  | condition (error : SelectError)
  | guard (error : SelectError)
  | assert (error : SelectError)
  | plan (error : PlanError)
deriving DecidableEq

/-- The wording of a cause. -/
def TaskError.message : TaskError → String
  | emptyKey => "task key is empty"
  | assertXorApply => "task must set exactly one of assert or apply"
  | targetWithoutApply => "target requires apply"
  | assertWithTarget => "assert cannot be combined with target"
  | replicasWithTarget => "replicas cannot be combined with target"
  | replicasWithAssert => "replicas cannot be combined with assert"
  | negativeReplicas n =>
    "replicas must not be negative, got " ++ String.ofList (Number.intText n.toInt)
  | tooManyReplicas replicas max =>
    "replicas " ++ toString replicas.toNat ++ " exceeds the limit of " ++ toString max.toNat
  | condition error => "invalid condition: " ++ error.message
  | guard error => "evaluating if: " ++ error.message
  | assert error => "evaluating assert: " ++ error.message
  | plan error => error.message

namespace Task

/-- The members that stand together: an assertion has neither target nor replicas, a
    target needs a document and has no replicas, and a task has an assertion or a
    document and not both. -/
def validateShape (t : Task) : Except TaskError Unit :=
  if Text.allBlank t.key then .error .emptyKey
  else if t.assert.isSome && t.target.isSome then .error .assertWithTarget
  else if t.target.isSome && t.apply.isNone then .error .targetWithoutApply
  else if t.assert.isSome == t.apply.isSome then .error .assertXorApply
  else if t.target.isSome && t.replicas.isSome then .error .replicasWithTarget
  else if t.assert.isSome && t.replicas.isSome then .error .replicasWithAssert
  else .ok ()

/-- The conditions of the guard, then those of the assertion, then the target. -/
def validateConditions (t : Task) : Except SelectError Unit := do
  t.guard.forM Assertion.validate
  t.assert.forM Assertion.validate
  t.target.forM fun s => (Condition.ofSelector s).validate

/-- The number of replicas, from zero to the limit. -/
def validateReplicas (t : Task) (limit : UInt32) : Except TaskError (Option UInt32) :=
  match t.replicas with
  | none => .ok none
  | some n =>
    if n < 0 then .error (.negativeReplicas n)
    else if n.toUInt32 > limit then .error (.tooManyReplicas n.toUInt32 limit)
    else .ok (some n.toUInt32)

/-- Finds the first fault of a task and returns its number of replicas. -/
def validate (t : Task) (settings : Settings) : Except TaskError (Option UInt32) := do
  t.validateShape
  t.validateConditions.mapError .condition
  t.validateReplicas settings.maxReplicas

end Task

/-! ### Wire form -/

open Wire

/-- Reads a task. -/
def Task.decode : Decoder Task :=
  record "Task" <|
    Task.mk <$> required "key" string <*> omittable "desc" string
      <*> omittable "if" Assertion.decode <*> omittable "assert" Assertion.decode
      <*> omittable "apply" .ok <*> omittable "target" Selector.decode
      <*> omittable "replicas" int32

/-- Writes a task. -/
def Task.encode (t : Task) : Document :=
  ofParts [("apply", t.apply), ("assert", t.assert.map Assertion.encode),
    ("desc", t.desc.map .str), ("if", t.guard.map Assertion.encode),
    ("key", some (.str t.key)), ("replicas", t.replicas.map (.int ·.toInt)),
    ("target", t.target.map Selector.encode)]

/-- Reads the tasks of a run. -/
def RunSpec.decode : Decoder RunSpec :=
  record "RunSpec" <|
    RunSpec.mk <$> withDefault "tasks" (list Task.decode) [] <*> omittable "if" Assertion.decode

/-- Writes the tasks of a run. -/
def RunSpec.encode (s : RunSpec) : Document :=
  ofParts [("if", s.guard.map Assertion.encode),
    ("tasks", some (.arr (s.tasks.map Task.encode)))]

end Reconciler
