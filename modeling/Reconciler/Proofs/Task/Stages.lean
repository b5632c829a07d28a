import Reconciler.Pipeline
import Reconciler.Proofs.Task.Execution

namespace Reconciler

/-!
# A task as a pipeline

A task can also be carried out in three stages that change one result in place: it is validated,
its guard is evaluated, and its work is done.  A stage that fails takes back what the result has
of resources and of an outcome, but nothing else.

* `Stage.needing` — a stage that needs something, and changes nothing when it does not get it;
* `Task.Progress` — what the stages share;
* `Task.validation`, `Task.guarding`, `Task.work` — the stages;
* `Task.executeStaged` — the stages one after the other;
* `Task.executeStaged_eq_execute` — the result is that of `Task.execute`.
-/

/-! ### Stages that need something -/

section Needing

variable {σ ε α : Type}

/-- A stage that needs `x` to go on, and fails without a change when there is none. -/
def Stage.needing (x : Except ε α) (next : σ → α → σ × Flow) : Stage σ ε := fun s =>
  match x with
  | .ok a => ((next s a).1, .ok (next s a).2)
  | .error e => (s, .error e)

/-- A stage goes on with what it needs. -/
@[simp] theorem Stage.needing_ok (a : α) (next : σ → α → σ × Flow) (s : σ) :
    Stage.needing (.ok a : Except ε α) next s = ((next s a).1, .ok (next s a).2) := rfl

end Needing

/-! ### Changes of a result -/

namespace Execution

/-- Says how the work ended. -/
def finish (x : Execution) (phase : TaskPhase) (message : String) (kind : ResultKind)
    (outcome : TaskOutcome) : Execution :=
  { x with
    result := { x.result with phase, message, kind := some kind, outcome := some outcome } }

/-- Says that the guard has stopped the task. -/
def skip (x : Execution) : Execution :=
  { x with result := { x.result with phase := .skipped, message := guardSkipped } }

/-- Says that the task failed, and takes its outcome and its resources back. -/
def fail (x : Execution) (error : TaskError) : Execution :=
  ⟨{ x.result with phase := .error, message := error.message, outcome := none }, Delta.empty⟩

end Execution

namespace Task

/-! ### The stages -/

/-- What the stages of a task share: the number of replicas, which the validation finds, and the
    result so far. -/
structure Progress where
  replicas : Option UInt32
  execution : Execution

/-- The result before anything was done. -/
def pending (t : Task) : Execution :=
  ⟨⟨t.key, t.desc, .online, "", none, none⟩, Delta.empty⟩

/-- The first stage finds the number of replicas. -/
def validation (t : Task) (ctx : TaskContext) : Stage Progress TaskError :=
  .needing (t.validate ctx.settings) fun s replicas => ({ s with replicas }, .proceed)

/-- The second stage stops the task when its guard does not hold. -/
def guarding (t : Task) (ctx : TaskContext) : Stage Progress TaskError :=
  match t.guard with
  | none => fun s => (s, .ok .proceed)
  | some a =>
    .needing ((a.evaluate ctx.observed).mapError .guard) fun s outcome =>
      if outcome.success then (s, .proceed)
      else ({ s with execution := s.execution.skip }, .stop)

/-- The third stage does the work: an assertion, an update, a creation or a deletion. -/
def work (t : Task) (ctx : TaskContext) : Stage Progress TaskError := fun s =>
  match t.assert, t.apply, t.target with
  | some a, _, _ =>
    Stage.needing ((a.evaluate ctx.observed).mapError .assert) (fun s outcome =>
      let (phase, message) :=
        if outcome.success then (TaskPhase.passed, "Assert passed")
        else (TaskPhase.failed, "Assert failed")
      ({ s with execution := s.execution.finish phase message .assert (.assert outcome) },
        .proceed)) s
  | none, some patch, some target =>
    let plan := planUpdate ctx.settings ctx.merger ctx.watch patch target ctx.observed
    Stage.needing (plan.mapError .plan) (fun s plan =>
      let delta :=
        { s.execution.delta with desired := plan.desired, explicitUpdates := plan.explicit }
      ({ s with
          execution := { s.execution with delta }.finish (.ofPlan plan.report.phase)
            plan.report.message .update (.update plan.report) }, .proceed)) s
  | none, some template, none =>
    let plan := planTemplate ctx.settings (t.provenance ctx) template s.replicas ctx.observed
    Stage.needing (plan.mapError .plan) (fun s plan =>
      match plan with
      | .created plan =>
        let delta := { s.execution.delta with desired := plan.desired }
        ({ s with
            execution := { s.execution with delta }.finish (.ofPlan plan.report.phase)
              plan.report.message .createOrDelete (.create plan.report) }, .proceed)
      | .deleted plan =>
        let delta := { s.execution.delta with explicitDeletes := plan.explicit }
        ({ s with
            execution := { s.execution with delta }.finish (.ofPlan plan.report.phase)
              plan.report.message .createOrDelete (.delete plan.report) }, .proceed)) s
  | none, none, _ => (s, .error .assertXorApply)

/-- The three stages. -/
def stages (t : Task) (ctx : TaskContext) : Pipeline Progress TaskError :=
  ((Pipeline.empty.andThen (t.validation ctx)).andThen (t.guarding ctx)).andThen (t.work ctx)

/-- Carries out a task stage by stage.  A failure is written into the result so far. -/
def executeStaged (t : Task) (ctx : TaskContext) : Execution :=
  match (t.stages ctx).run ⟨none, t.pending⟩ with
  | (s, .ok _) => s.execution
  | (s, .error error) => s.execution.fail error

variable {t : Task} {ctx : TaskContext} {replicas : Option UInt32}

/-! ### What the stages do -/

/-- The guard leaves a result that it does not stop as it is. -/
theorem guarding_eq (s : Progress) :
    t.guarding ctx s =
      match t.guardHolds ctx with
      | .ok true => (s, .ok .proceed)
      | .ok false => ({ s with execution := s.execution.skip }, .ok .stop)
      | .error error => (s, .error error) := by
  unfold guarding guardHolds
  cases t.guard with
  | none => rfl
  | some a =>
    dsimp only
    cases a.evaluate ctx.observed with
    | error error => rfl
    | ok outcome =>
      obtain ⟨success, evaluated⟩ := outcome
      cases success <;> rfl

/-- The work makes the pending result that of the task, or leaves it pending. -/
theorem work_pending :
    t.work ctx ⟨replicas, t.pending⟩ =
      match t.perform ctx replicas with
      | .ok x => (⟨replicas, x⟩, .ok .proceed)
      | .error error => (⟨replicas, t.pending⟩, .error error) := by
  unfold work perform
  -- By the members that the task has: an assertion, or else a document and maybe a target.
  cases t.assert with
  | some a =>
    unfold performAssert
    dsimp only
    cases a.evaluate ctx.observed with
    | error error => rfl
    | ok outcome =>
      obtain ⟨success, evaluated⟩ := outcome
      cases success <;> rfl
  | none =>
    cases t.apply with
    | none => rfl
    | some d =>
      cases t.target with
      | some target =>
        unfold performUpdate
        dsimp only
        cases planUpdate ctx.settings ctx.merger ctx.watch d target ctx.observed with
        | error error => rfl
        | ok plan => rfl
      | none =>
        unfold performTemplate provenance
        dsimp only
        cases planTemplate ctx.settings ⟨ctx.watch, some ctx.run, some t.key⟩ d replicas
            ctx.observed with
        | error error => rfl
        | ok plan => cases plan <;> rfl

/-- The stages yield what the task yields as a whole. -/
theorem executeStaged_eq_execute (t : Task) (ctx : TaskContext) :
    t.executeStaged ctx = t.execute ctx := by
  unfold executeStaged execute attempt
  simp only [Pipeline.run, stages, Pipeline.andThen, Pipeline.empty, List.nil_append,
    List.cons_append, Pipeline.runStages, validation]
  -- Both go through validation, guard and work, and each of these may be the end.
  cases t.validate ctx.settings with
  | error error => rfl
  | ok replicas =>
    simp only [Stage.needing_ok, guarding_eq]
    cases t.guardHolds ctx with
    | error error => rfl
    | ok holds =>
      cases holds with
      | false => rfl
      | true =>
        simp only [work_pending]
        cases h : t.perform ctx replicas with
        | error error =>
          simp only [bind, Except.bind, if_true, h]
          rfl
        | ok x => simp only [bind, Except.bind, if_true, h]

end Task

end Reconciler
