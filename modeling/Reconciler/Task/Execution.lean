import Reconciler.Task.Result

namespace Reconciler

/-!
# Carrying out a task

A task is validated, its guard is evaluated, and then its work is done.  A failure
on the way becomes a result without resources.

* `TaskContext` — what the tasks of a run share;
* `Task.perform` — the work itself;
* `Task.attempt` — validation, guard and work;
* `Task.execute` — the same, with a failure turned into a result.
-/

/-- What the tasks of a run share. -/
structure TaskContext where
  observed : List Resource
  watch : Owner
  run : Owner
  merger : Merger
  settings : Settings

/-- A result with the resources that the task contributes. -/
structure Execution where
  result : TaskResult
  delta : Delta

/-- What a task says that its guard has stopped. -/
def guardSkipped : String := "Task didn't run: If cond failed"

namespace Task

/-- The result of a task that did its work. -/
def finished (t : Task) (phase : TaskPhase) (message : String) (kind : ResultKind)
    (outcome : TaskOutcome) (delta : Delta) : Execution :=
  ⟨⟨t.key, t.desc, phase, message, some kind, some outcome⟩, delta⟩

/-- The result of a task that its guard has stopped. -/
def stopped (t : Task) : Execution :=
  ⟨⟨t.key, t.desc, .skipped, guardSkipped, none, none⟩, Delta.empty⟩

/-- The result of a task that failed. -/
def failed (t : Task) (error : TaskError) : Execution :=
  ⟨⟨t.key, t.desc, .error, error.message, none, none⟩, Delta.empty⟩

/-- Evaluates the assertion of a task. -/
def performAssert (t : Task) (ctx : TaskContext) (a : Assertion) : Except TaskError Execution := do
  let outcome ← (a.evaluate ctx.observed).mapError .assert
  return if outcome.success then
    t.finished .passed "Assert passed" .assert (.assert outcome) Delta.empty
  else
    t.finished .failed "Assert failed" .assert (.assert outcome) Delta.empty

/-- Merges the patch of a task into the resources that it selects. -/
def performUpdate (t : Task) (ctx : TaskContext) (patch : Document) (target : Selector) :
    Except TaskError Execution := do
  let plan ← (planUpdate ctx.settings ctx.merger ctx.watch patch target ctx.observed).mapError .plan
  return t.finished (.ofPlan plan.report.phase) plan.report.message .update (.update plan.report)
    ⟨plan.desired, plan.explicit, []⟩

/-- Creates or deletes what the template of a task means. -/
def performTemplate (t : Task) (ctx : TaskContext) (template : Document)
    (replicas : Option UInt32) : Except TaskError Execution := do
  let provenance : Provenance := ⟨ctx.watch, some ctx.run, some t.key⟩
  let plan ←
    (planTemplate ctx.settings provenance template replicas ctx.observed).mapError .plan
  match plan with
  | .created plan =>
    return t.finished (.ofPlan plan.report.phase) plan.report.message .createOrDelete
      (.create plan.report) ⟨plan.desired, [], []⟩
  | .deleted plan =>
    return t.finished (.ofPlan plan.report.phase) plan.report.message .createOrDelete
      (.delete plan.report) ⟨[], [], plan.explicit⟩

/-- Does the work of a task. -/
def perform (t : Task) (ctx : TaskContext) (replicas : Option UInt32) :
    Except TaskError Execution :=
  match t.assert, t.apply, t.target with
  | some a, _, _ => t.performAssert ctx a
  | none, some patch, some target => t.performUpdate ctx patch target
  | none, some template, none => t.performTemplate ctx template replicas
  | none, none, _ => .error .assertXorApply

/-- Whether the guard of a task, if it has one, lets it run. -/
def guardHolds (t : Task) (ctx : TaskContext) : Except TaskError Bool :=
  match t.guard with
  | none => .ok true
  | some a => (a.evaluate ctx.observed).mapError .guard |>.map (·.success)

/-- Validates a task and carries it out, if its guard lets it. -/
def attempt (t : Task) (ctx : TaskContext) : Except TaskError Execution := do
  let replicas ← t.validate ctx.settings
  if ← t.guardHolds ctx then t.perform ctx replicas else return t.stopped

/-- Carries out a task; there is always a result. -/
def execute (t : Task) (ctx : TaskContext) : Execution :=
  match t.attempt ctx with
  | .ok execution => execution
  | .error error => t.failed error

end Task

end Reconciler
