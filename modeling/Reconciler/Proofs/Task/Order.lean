import Reconciler.Proofs.Plan.Order
import Reconciler.Proofs.Selector.Order

namespace Reconciler

/-!
# Tasks over resources in another order

A task that is carried out over the same resources in another order ends in the same phase.
It contributes the same resources, in another order, and reports the same apart from the order
of the entries.  When it fails, it fails over both, but it may name another resource.

* `TaskOutcome.Reorders`, `TaskResult.Reorders` — what a task reports, in another order;
* `Delta.Reorders`, `Execution.Reorders` — what it contributes, too;
* `Task.execute_perm` — the same, for every task.
-/

/-! ### Results in another order -/

/-- The outcomes differ in the order of the entries of their reports at most. -/
inductive TaskOutcome.Reorders : TaskOutcome → TaskOutcome → Prop
  | create (report : CreateReport) : Reorders (.create report) (.create report)
  | delete {report report' : DeleteReport} (h : report.Reorders report') :
      Reorders (.delete report) (.delete report')
  | update {report report' : UpdateReport} (h : report.Reorders report') :
      Reorders (.update report) (.update report')
  | assert (outcome : AssertionOutcome) : Reorders (.assert outcome) (.assert outcome)

/-- The results differ in the order of the entries of their reports at most, or they are both
    errors, and then their messages may differ. -/
structure TaskResult.Reorders (r r' : TaskResult) : Prop where
  key : r.key = r'.key
  desc : r.desc = r'.desc
  phase : r.phase = r'.phase
  message : r.phase ≠ .error → r.message = r'.message
  kind : r.kind = r'.kind
  outcome : Option.Rel TaskOutcome.Reorders r.outcome r'.outcome

/-- The lists of both hold the same resources. -/
structure Delta.Reorders (d d' : Delta) : Prop where
  desired : d.desired.Perm d'.desired
  explicitUpdates : d.explicitUpdates.Perm d'.explicitUpdates
  explicitDeletes : d.explicitDeletes.Perm d'.explicitDeletes

/-- The executions differ in their order at most, or in the message of a failure. -/
structure Execution.Reorders (x x' : Execution) : Prop where
  result : x.result.Reorders x'.result
  delta : x.delta.Reorders x'.delta

/-- Results that differ in order are both completed or neither. -/
theorem TaskResult.Reorders.completed_eq {r r' : TaskResult} (h : r.Reorders r') :
    r.completed = r'.completed := by
  rw [completed, completed, h.phase]

theorem Delta.reorders_refl (d : Delta) : d.Reorders d :=
  ⟨.refl _, .refl _, .refl _⟩

/-- Deltas in another order are joined to one in another order. -/
theorem Delta.Reorders.append {d d' e e' : Delta} (hd : d.Reorders d') (he : e.Reorders e') :
    (d.append e).Reorders (d'.append e') :=
  ⟨hd.desired.append he.desired, hd.explicitUpdates.append he.explicitUpdates,
    hd.explicitDeletes.append he.explicitDeletes⟩

theorem Delta.reorders_concat {ds ds' : List Delta} (h : List.Forall₂ Delta.Reorders ds ds') :
    (concat ds).Reorders (concat ds') := by
  induction h with
  | nil => exact reorders_refl empty
  | cons hd _ ih => exact hd.append ih

/-! ### Tasks -/

/-- What the tasks of a run share, over other resources. -/
def TaskContext.over (ctx : TaskContext) (observed : List Resource) : TaskContext :=
  { ctx with observed }

namespace Task

variable (t : Task) (ctx : TaskContext) {observed' : List Resource}

theorem reorders_finished (phase : TaskPhase) (message : String) (kind : ResultKind)
    {outcome outcome' : TaskOutcome} {delta delta' : Delta} (houtcome : outcome.Reorders outcome')
    (hdelta : delta.Reorders delta') :
    (t.finished phase message kind outcome delta).Reorders
      (t.finished phase message kind outcome' delta') :=
  ⟨⟨rfl, rfl, rfl, fun _ => rfl, rfl, .some houtcome⟩, hdelta⟩

theorem reorders_stopped : t.stopped.Reorders t.stopped :=
  ⟨⟨rfl, rfl, rfl, fun _ => rfl, rfl, .none⟩, Delta.reorders_refl _⟩

/-- Two failures of a task differ in their messages alone. -/
theorem reorders_failed (error error' : TaskError) :
    (t.failed error).Reorders (t.failed error') :=
  ⟨⟨rfl, rfl, rfl, fun h => absurd rfl h, rfl, .none⟩, Delta.reorders_refl _⟩

/-- An assertion gives the same in any order of the resources, or fails in both. -/
theorem performAssert_perm (a : Assertion) (h : ctx.observed.Perm observed') :
    Alike Execution.Reorders (t.performAssert ctx a) (t.performAssert (ctx.over observed') a) := by
  have heval : a.evaluate (ctx.over observed').observed = a.evaluate ctx.observed :=
    a.evaluate_perm h
  unfold performAssert
  rw [heval]
  refine alike_bind _ fun outcome _ => alike_pure ?_
  split
  · exact reorders_finished t _ _ _ (.assert outcome) (Delta.reorders_refl _)
  · exact reorders_finished t _ _ _ (.assert outcome) (Delta.reorders_refl _)

theorem performUpdate_perm (patch : Document) (target : Selector)
    (h : ctx.observed.Perm observed') :
    Alike Execution.Reorders (t.performUpdate ctx patch target)
      (t.performUpdate (ctx.over observed') patch target) := by
  have hplans := planUpdate_perm ctx.settings ctx.merger ctx.watch patch target h
  refine (hplans.mapError TaskError.plan).bind fun plan plan' hplan => alike_pure ?_
  rw [hplan.report.phase_eq, hplan.report.message_eq]
  exact reorders_finished t _ _ _ (.update hplan.report) ⟨hplan.desired, hplan.explicit, .refl _⟩

theorem performTemplate_perm (template : Document) (replicas : Option UInt32)
    (h : ctx.observed.Perm observed') :
    Alike Execution.Reorders (t.performTemplate ctx template replicas)
      (t.performTemplate (ctx.over observed') template replicas) := by
  have hplans :=
    planTemplate_perm ctx.settings ⟨ctx.watch, some ctx.run, some t.key⟩ template replicas h
  refine (hplans.mapError TaskError.plan).bind fun plan plan' hplan => ?_
  cases hplan with
  | created plan =>
    exact alike_pure (reorders_finished t _ _ _ (.create plan.report) (Delta.reorders_refl _))
  | deleted hplan =>
    -- Phase and message of a deletion tell only how many resources there are.
    refine alike_pure ?_
    rw [hplan.report.phase_eq, hplan.report.message_eq]
    exact reorders_finished t _ _ _ (.delete hplan.report) ⟨.refl _, .refl _, hplan.explicit⟩

/-- The work of a task, whatever it is, goes alike. -/
theorem perform_perm (replicas : Option UInt32) (h : ctx.observed.Perm observed') :
    Alike Execution.Reorders (t.perform ctx replicas)
      (t.perform (ctx.over observed') replicas) := by
  unfold perform
  -- By the members that the task has: assertion, patch with target, template.
  split
  · exact performAssert_perm t ctx _ h
  · exact performUpdate_perm t ctx _ _ h
  · exact performTemplate_perm t ctx _ replicas h
  · exact .failed _ _

/-- A guard decides the same in any order of the resources, or fails in the same way. -/
theorem guardHolds_perm (h : ctx.observed.Perm observed') :
    t.guardHolds (ctx.over observed') = t.guardHolds ctx := by
  unfold guardHolds
  cases t.guard with
  | none => rfl
  | some a =>
    have heval : a.evaluate (ctx.over observed').observed = a.evaluate ctx.observed :=
      a.evaluate_perm h
    dsimp only
    rw [heval]

/-- An attempt gives the same in any order of the resources, or fails in both. -/
theorem attempt_perm (h : ctx.observed.Perm observed') :
    Alike Execution.Reorders (t.attempt ctx) (t.attempt (ctx.over observed')) := by
  unfold attempt
  -- Validation does not look at the observed resources, and the guard has one answer.
  rw [guardHolds_perm t ctx h]
  refine alike_bind (t.validate ctx.settings) fun replicas _ => ?_
  refine alike_bind (t.guardHolds ctx) fun holds _ => ?_
  cases holds with
  | true => exact perform_perm t ctx replicas h
  | false => exact alike_pure (reorders_stopped t)

/-- A task ends alike over the same resources in another order. -/
theorem execute_perm (h : ctx.observed.Perm observed') :
    (t.execute ctx).Reorders (t.execute (ctx.over observed')) := by
  have halike := attempt_perm t ctx h
  unfold execute
  generalize t.attempt ctx = x, t.attempt (ctx.over observed') = x' at halike ⊢
  cases halike with
  | failed e e' => exact reorders_failed t e e'
  | succeeded h => exact h

end Task

end Reconciler
