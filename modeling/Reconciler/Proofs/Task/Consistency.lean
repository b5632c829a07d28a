import Reconciler.Proofs.Plan.Template
import Reconciler.Proofs.Plan.Update
import Reconciler.Proofs.Task.Execution
import Reconciler.Proofs.Task.Stages

namespace Reconciler

/-!
# Results agree with themselves

The phase of a result, its kind, its outcome and the resources that come with it are written at
different points of the work of a task.  They always tell the same.

* `Execution.Agrees` — what an outcome says of the rest of the result;
* `counts_of_planUpdate`, `explicit_of_planDelete` — plans report the lengths of their lists;
* `Task.agrees_of_kind` — work that was done agrees with its outcome;
* `Task.stopped_iff` — which tasks are stopped by their guards;
* `Task.execute_consistent` — the cases together.
-/

/-- The rest of the result is what the outcome says.  An assertion passed or failed, and
    contributes nothing; an update deletes nothing, and counts what it contributes; a creation
    contributes to the desired resources alone; a deletion deletes as many as it counts, and
    contributes nothing else. -/
def Execution.Agrees (x : Execution) : TaskOutcome → Prop
  | .assert outcome =>
    x.result.kind = some .assert ∧
      x.result.phase = (if outcome.success then .passed else .failed) ∧ x.delta = Delta.empty
  | .update report =>
    x.result.kind = some .update ∧ x.result.phase = .ofPlan report.phase ∧
      x.result.message = report.message ∧ x.delta.explicitDeletes = [] ∧
      report.desired = x.delta.desired.length ∧ report.explicit = x.delta.explicitUpdates.length
  | .create report =>
    x.result.kind = some .createOrDelete ∧ x.result.phase = .ofPlan report.phase ∧
      x.result.message = report.message ∧ x.delta.explicitUpdates = [] ∧
      x.delta.explicitDeletes = []
  | .delete report =>
    x.result.kind = some .createOrDelete ∧ x.result.phase = .ofPlan report.phase ∧
      x.result.message = report.message ∧ x.delta.desired = [] ∧ x.delta.explicitUpdates = [] ∧
      report.explicit = x.delta.explicitDeletes.length

/-! ### What plans report -/

section Plans

variable {settings : Settings} {merger : Merger} {watch : Owner} {observed : List Resource}

/-- An update reports how many resources it returns. -/
theorem counts_of_planUpdate {patch : Document} {target : Selector} {plan : UpdatePlan}
    (h : planUpdate settings merger watch patch target observed = .ok plan) :
    plan.report.desired = plan.desired.length ∧ plan.report.explicit = plan.explicit.length := by
  obtain ⟨selector, updates, -, -, rfl⟩ := planUpdate_eq_ok.mp h
  cases updates with
  | nil => exact ⟨rfl, rfl⟩
  | cons u us =>
    rw [UpdatePlan.desired_ofUpdates, UpdatePlan.explicit_ofUpdates, List.length_map,
      List.length_map]
    exact ⟨rfl, rfl⟩

/-- A deletion reports how many resources it returns. -/
theorem explicit_of_planDelete {template : Document} {plan : DeletePlan}
    (h : planDelete settings watch template observed = .ok plan) :
    plan.report.explicit = plan.explicit.length := by
  obtain ⟨r, -, rfl⟩ := planDelete_eq_ok.mp h
  rfl

end Plans

namespace Task

variable {t : Task} {ctx : TaskContext} {x : Execution}

/-! ### Work that was done -/

/-- The result of an assertion is written from its outcome. -/
theorem agrees_asserted (t : Task) (outcome : AssertionOutcome) :
    (t.asserted outcome).Agrees (.assert outcome) := by
  unfold asserted
  cases h : outcome.success with
  | true => exact ⟨rfl, by simp [h, finished], rfl⟩
  | false => exact ⟨rfl, by simp [h, finished], rfl⟩

/-- A result with a kind has an outcome that agrees with it. -/
theorem Executes.agrees_of_kind (h : t.Executes ctx x) (hkind : x.result.kind ≠ none) :
    ∃ outcome, x.result.outcome = some outcome ∧ x.Agrees outcome := by
  cases h with
  | failed => exact absurd rfl hkind
  | stopped => exact absurd rfl hkind
  | @asserted _ _ outcome =>
    -- Whether the assertion has passed is told by the phase, and not by the outcome being there.
    have houtcome : (t.asserted outcome).result.outcome = some (.assert outcome) := by
      unfold Task.asserted
      split <;> rfl
    exact ⟨_, houtcome, agrees_asserted t outcome⟩
  | updated _ _ _ _ h =>
    obtain ⟨hdesired, hexplicit⟩ := counts_of_planUpdate h
    exact ⟨_, rfl, rfl, rfl, rfl, rfl, hdesired, hexplicit⟩
  | created => exact ⟨_, rfl, rfl, rfl, rfl, rfl, rfl⟩
  | deleted _ _ _ _ _ h =>
    exact ⟨_, rfl, rfl, rfl, rfl, rfl, rfl, explicit_of_planDelete h⟩

/-! ### Tasks that are stopped -/

/-- A guard does not hold iff there is one and its assertion has failed. -/
theorem guardHolds_eq_false :
    t.guardHolds ctx = .ok false ↔
      ∃ a outcome, t.guard = some a ∧ a.evaluate ctx.observed = .ok outcome ∧
        outcome.success = false := by
  unfold guardHolds
  cases t.guard with
  | none => simp
  | some a =>
    simp only [map_eq_ok, mapError_eq_ok]
    constructor
    · rintro ⟨outcome, houtcome, hfalse⟩
      exact ⟨a, outcome, rfl, houtcome, hfalse⟩
    · rintro ⟨a', outcome, ha, houtcome, hfalse⟩
      obtain rfl := Option.some.inj ha
      exact ⟨outcome, houtcome, hfalse⟩

/-- The guard stops a task when the task is valid and the guard does not hold. -/
def Stops (t : Task) (ctx : TaskContext) : Prop :=
  (∃ replicas, t.validate ctx.settings = .ok replicas) ∧
    ∃ a outcome, t.guard = some a ∧ a.evaluate ctx.observed = .ok outcome ∧
      outcome.success = false

/-- A task that its guard stops is reported as skipped. -/
theorem Stops.execute_eq (h : t.Stops ctx) : t.execute ctx = t.stopped := by
  obtain ⟨⟨replicas, hvalid⟩, hguard⟩ := h
  exact executes_iff.mp (.stopped hvalid (guardHolds_eq_false.mpr hguard))

/-- A result without a kind is that of a failure, or of a task that its guard stops. -/
theorem Executes.of_kind_eq_none (h : t.Executes ctx x) (hkind : x.result.kind = none) :
    x.result.phase = .error ∨ t.Stops ctx := by
  cases h with
  | failed => exact .inl rfl
  | stopped hvalid hguard => exact .inr ⟨⟨_, hvalid⟩, guardHolds_eq_false.mp hguard⟩
  | asserted =>
    unfold Task.asserted at hkind
    split at hkind <;> cases hkind
  | updated => cases hkind
  | created => cases hkind
  | deleted => cases hkind

/-- Only a task that its guard stops is skipped without a kind. -/
theorem stopped_iff :
    (t.execute ctx).result.phase = .skipped ∧ (t.execute ctx).result.kind = none ↔
      t.Stops ctx := by
  constructor
  · -- Without a kind no work was done: the task failed or was stopped, and it did not fail.
    rintro ⟨hphase, hkind⟩
    rcases (executes_execute t ctx).of_kind_eq_none hkind with herror | hstops
    · rw [hphase] at herror
      cases herror
    · exact hstops
  · intro h
    rw [h.execute_eq]
    exact ⟨rfl, rfl⟩

/-! ### The cases together -/

/-- Whichever stage a task ends in, its result agrees with itself.  A failure leaves no resource,
    no kind and no outcome.  Without a kind a task is skipped just when it is valid and its guard
    does not hold, and then all valid tasks with its key, its description and its guard have the
    same result.  Every other result has a kind and an outcome that agree with the rest. -/
theorem execute_consistent (t : Task) (ctx : TaskContext) :
    t.executeStaged ctx = t.execute ctx ∧
      ((t.execute ctx).result.phase = .error →
        (t.execute ctx).delta = Delta.empty ∧ (t.execute ctx).result.kind = none ∧
          (t.execute ctx).result.outcome = none) ∧
      ((t.execute ctx).result.phase = .skipped ∧ (t.execute ctx).result.kind = none ↔
        t.Stops ctx) ∧
      (t.Stops ctx → ∀ t' : Task, t'.key = t.key → t'.desc = t.desc → t'.guard = t.guard →
        (∃ replicas, t'.validate ctx.settings = .ok replicas) →
          t'.execute ctx = t.execute ctx) ∧
      ((t.execute ctx).result.phase ≠ .error → ¬ t.Stops ctx →
        ∃ outcome, (t.execute ctx).result.outcome = some outcome ∧
          (t.execute ctx).Agrees outcome) := by
  refine ⟨executeStaged_eq_execute t ctx, fun hphase => ?failure, stopped_iff,
    fun hstops t' hkey hdesc hguard hvalid => ?others, fun hphase hstops => ?done⟩
  case failure =>
    obtain ⟨error, -, hfailed⟩ := (executes_execute t ctx).eq_failed hphase
    rw [hfailed]
    exact ⟨rfl, rfl, rfl⟩
  case others =>
    -- The other task has the same guard, and its own work is not looked at.
    have hstops' : t'.Stops ctx := by
      obtain ⟨-, hfalse⟩ := hstops
      rw [← hguard] at hfalse
      exact ⟨hvalid, hfalse⟩
    rw [hstops.execute_eq, hstops'.execute_eq, stopped, stopped, hkey, hdesc]
  case done =>
    refine (executes_execute t ctx).agrees_of_kind fun hkind => ?_
    exact ((executes_execute t ctx).of_kind_eq_none hkind).elim hphase hstops

end Task

end Reconciler
