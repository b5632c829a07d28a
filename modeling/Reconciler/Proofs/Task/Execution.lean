import Reconciler.Proofs.Success
import Reconciler.Task.Execution

namespace Reconciler.Task

/-!
# The ways a task is carried out

* `Executes` — the six ways: a failure, a stop by the guard, an assertion, an update, a
  creation and a deletion;
* `executes_iff` — carrying out a task is always one of them, and only one;
* `Executes.eq_failed` — only a failure ends in an error;
* `key_execute` — every result names its task.
-/

/-- The task is valid, with this number of replicas, and its guard lets it run. -/
def Proceeds (t : Task) (ctx : TaskContext) (replicas : Option UInt32) : Prop :=
  t.validate ctx.settings = .ok replicas ∧ t.guardHolds ctx = .ok true

/-- What a task records in the resources that it creates. -/
def provenance (t : Task) (ctx : TaskContext) : Provenance :=
  ⟨ctx.watch, some ctx.run, some t.key⟩

/-! ### Results of work that was done -/

/-- The result of an assertion with this answer. -/
def asserted (t : Task) (outcome : AssertionOutcome) : Execution :=
  if outcome.success then
    t.finished .passed "Assert passed" .assert (.assert outcome) Delta.empty
  else
    t.finished .failed "Assert failed" .assert (.assert outcome) Delta.empty

/-- The result of an update with this plan. -/
def updated (t : Task) (plan : UpdatePlan) : Execution :=
  t.finished (.ofPlan plan.report.phase) plan.report.message .update (.update plan.report)
    ⟨plan.desired, plan.explicit, []⟩

/-- The result of a creation with this plan. -/
def created (t : Task) (plan : CreatePlan) : Execution :=
  t.finished (.ofPlan plan.report.phase) plan.report.message .createOrDelete
    (.create plan.report) ⟨plan.desired, [], []⟩

/-- The result of a deletion with this plan. -/
def deleted (t : Task) (plan : DeletePlan) : Execution :=
  t.finished (.ofPlan plan.report.phase) plan.report.message .createOrDelete
    (.delete plan.report) ⟨[], [], plan.explicit⟩

/-! ### The ways -/

/-- One way of carrying out a task, with the execution that it yields. -/
inductive Executes (t : Task) (ctx : TaskContext) : Execution → Prop
  | failed {error : TaskError} (h : t.attempt ctx = .error error) :
      Executes t ctx (t.failed error)
  | stopped {replicas : Option UInt32} (hvalid : t.validate ctx.settings = .ok replicas)
      (hguard : t.guardHolds ctx = .ok false) : Executes t ctx t.stopped
  | asserted {replicas : Option UInt32} {a : Assertion} {outcome : AssertionOutcome}
      (hproceeds : t.Proceeds ctx replicas) (hassert : t.assert = some a)
      (h : a.evaluate ctx.observed = .ok outcome) : Executes t ctx (t.asserted outcome)
  | updated {replicas : Option UInt32} {patch : Document} {target : Selector} {plan : UpdatePlan}
      (hproceeds : t.Proceeds ctx replicas) (hassert : t.assert = none)
      (happly : t.apply = some patch) (htarget : t.target = some target)
      (h : planUpdate ctx.settings ctx.merger ctx.watch patch target ctx.observed = .ok plan) :
      Executes t ctx (t.updated plan)
  | created {replicas : Option UInt32} {template : Document} {plan : CreatePlan}
      (hproceeds : t.Proceeds ctx replicas) (hassert : t.assert = none)
      (happly : t.apply = some template) (htarget : t.target = none)
      (hintent : isDeleteIntent template replicas = false)
      (h : planCreate ctx.settings (t.provenance ctx) template (replicas.getD 1) = .ok plan) :
      Executes t ctx (t.created plan)
  | deleted {replicas : Option UInt32} {template : Document} {plan : DeletePlan}
      (hproceeds : t.Proceeds ctx replicas) (hassert : t.assert = none)
      (happly : t.apply = some template) (htarget : t.target = none)
      (hintent : isDeleteIntent template replicas = true)
      (h : planDelete ctx.settings ctx.watch template ctx.observed = .ok plan) :
      Executes t ctx (t.deleted plan)

variable {t : Task} {ctx : TaskContext} {x : Execution}

/-- A task that does not fail is stopped by its guard or does its work. -/
theorem attempt_eq_ok :
    t.attempt ctx = .ok x ↔
      ∃ replicas, (t.validate ctx.settings = .ok replicas ∧ t.guardHolds ctx = .ok false ∧
          t.stopped = x) ∨
        t.Proceeds ctx replicas ∧ t.perform ctx replicas = .ok x := by
  simp only [attempt, bind_eq_ok, Proceeds]
  refine exists_congr fun replicas => ?_
  constructor
  · rintro ⟨hvalid, holds, hguard, h⟩
    -- The guard decides whether the work is done.
    cases holds with
    | false => exact .inl ⟨hvalid, hguard, pure_eq_ok.mp h⟩
    | true => exact .inr ⟨⟨hvalid, hguard⟩, h⟩
  · rintro (⟨hvalid, hguard, rfl⟩ | ⟨⟨hvalid, hguard⟩, h⟩)
    · exact ⟨hvalid, false, hguard, rfl⟩
    · exact ⟨hvalid, true, hguard, h⟩

/-- An assertion does its work by being answered. -/
theorem performAssert_eq_ok {a : Assertion} :
    t.performAssert ctx a = .ok x ↔
      ∃ outcome, a.evaluate ctx.observed = .ok outcome ∧ t.asserted outcome = x := by
  simp only [performAssert, bind_eq_ok, mapError_eq_ok]
  refine exists_congr fun outcome => and_congr_right fun _ => ?_
  rw [asserted]
  split <;> rw [pure_eq_ok]

/-- A patch does its work by an update. -/
theorem performUpdate_eq_ok {patch : Document} {target : Selector} :
    t.performUpdate ctx patch target = .ok x ↔
      ∃ plan, planUpdate ctx.settings ctx.merger ctx.watch patch target ctx.observed = .ok plan ∧
        t.updated plan = x := by
  simp only [performUpdate, bind_eq_ok, mapError_eq_ok, pure_eq_ok]
  rfl

/-- A template does its work by a creation or by a deletion, whichever it asks for. -/
theorem performTemplate_eq_ok {template : Document} {replicas : Option UInt32} :
    t.performTemplate ctx template replicas = .ok x ↔
      (isDeleteIntent template replicas = false ∧
        ∃ plan, planCreate ctx.settings (t.provenance ctx) template (replicas.getD 1) = .ok plan ∧
          t.created plan = x) ∨
      isDeleteIntent template replicas = true ∧
        ∃ plan, planDelete ctx.settings ctx.watch template ctx.observed = .ok plan ∧
          t.deleted plan = x := by
  simp only [performTemplate, bind_eq_ok, mapError_eq_ok, planTemplate]
  -- The intent decides which of the two plans there is.
  cases isDeleteIntent template replicas with
  | false => simp [created, provenance]
  | true => simp [deleted]

/-- A task without a failure is carried out in one of the other ways. -/
theorem executes_of_perform {replicas : Option UInt32} (hproceeds : t.Proceeds ctx replicas)
    (h : t.perform ctx replicas = .ok x) : t.Executes ctx x := by
  unfold perform at h
  -- By the members that the task has: assertion, patch with target, template.
  split at h
  · next a _ _ hassert =>
    obtain ⟨outcome, houtcome, rfl⟩ := performAssert_eq_ok.mp h
    exact .asserted hproceeds hassert houtcome
  · next patch target hassert happly htarget =>
    obtain ⟨plan, hplan, rfl⟩ := performUpdate_eq_ok.mp h
    exact .updated hproceeds hassert happly htarget hplan
  · next template hassert happly htarget =>
    rcases performTemplate_eq_ok.mp h with ⟨hintent, plan, hplan, rfl⟩ | ⟨hintent, plan, hplan, rfl⟩
    · exact .created hproceeds hassert happly htarget hintent hplan
    · exact .deleted hproceeds hassert happly htarget hintent hplan
  · exact absurd h (by simp)

/-- Every task is carried out in one of the ways. -/
theorem executes_execute (t : Task) (ctx : TaskContext) : t.Executes ctx (t.execute ctx) := by
  unfold execute
  split
  · next x h =>
    obtain ⟨replicas, ⟨hvalid, hguard, rfl⟩ | ⟨hproceeds, h⟩⟩ := attempt_eq_ok.mp h
    · exact .stopped hvalid hguard
    · exact executes_of_perform hproceeds h
  · next error h => exact .failed h

/-- The work of a task that proceeds is its execution. -/
theorem execute_of_perform {replicas : Option UInt32} (hproceeds : t.Proceeds ctx replicas)
    (h : t.perform ctx replicas = .ok x) : t.execute ctx = x := by
  rw [execute, attempt_eq_ok.mpr ⟨replicas, .inr ⟨hproceeds, h⟩⟩]

/-- The ways exclude each other. -/
theorem executes_iff : t.Executes ctx x ↔ t.execute ctx = x := by
  constructor
  · intro h
    -- Each way says what validation, guard and work return, and the execution follows.
    cases h with
    | failed h => rw [execute, h]
    | stopped hvalid hguard =>
      rw [execute, attempt_eq_ok.mpr ⟨_, .inl ⟨hvalid, hguard, rfl⟩⟩]
    | asserted hproceeds hassert h =>
      refine execute_of_perform hproceeds ?_
      rw [perform, hassert]
      exact performAssert_eq_ok.mpr ⟨_, h, rfl⟩
    | updated hproceeds hassert happly htarget h =>
      refine execute_of_perform hproceeds ?_
      rw [perform, hassert, happly, htarget]
      exact performUpdate_eq_ok.mpr ⟨_, h, rfl⟩
    | created hproceeds hassert happly htarget hintent h =>
      refine execute_of_perform hproceeds ?_
      rw [perform, hassert, happly, htarget]
      exact performTemplate_eq_ok.mpr (.inl ⟨hintent, _, h, rfl⟩)
    | deleted hproceeds hassert happly htarget hintent h =>
      refine execute_of_perform hproceeds ?_
      rw [perform, hassert, happly, htarget]
      exact performTemplate_eq_ok.mpr (.inr ⟨hintent, _, h, rfl⟩)
  · rintro rfl
    exact executes_execute t ctx

/-- No plan makes its task end in an error. -/
theorem ofPlan_ne_error (phase : PlanPhase) : TaskPhase.ofPlan phase ≠ .error := by
  cases phase <;> exact nofun

/-- A task ends in an error in one way only. -/
theorem Executes.eq_failed (h : t.Executes ctx x) (hphase : x.result.phase = .error) :
    ∃ error, t.attempt ctx = .error error ∧ x = t.failed error := by
  cases h with
  | failed h => exact ⟨_, h, rfl⟩
  | stopped => cases hphase
  | asserted =>
    -- An assertion that does not hold has failed, which is not an error.
    unfold Task.asserted at hphase
    split at hphase <;> cases hphase
  | updated => exact absurd hphase (ofPlan_ne_error _)
  | created => exact absurd hphase (ofPlan_ne_error _)
  | deleted => exact absurd hphase (ofPlan_ne_error _)

/-- However a task is carried out, the result names it. -/
theorem Executes.key_eq (h : t.Executes ctx x) : x.result.key = t.key := by
  cases h with
  | asserted =>
    unfold Task.asserted
    split <;> rfl
  | _ => rfl

/-- Every result has the key of its task. -/
@[simp] theorem key_execute (t : Task) (ctx : TaskContext) : (t.execute ctx).result.key = t.key :=
  (executes_execute t ctx).key_eq

end Reconciler.Task
