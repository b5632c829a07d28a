import Reconciler.Task.Execution

namespace Reconciler

/-!
# What the lists in reports have no influence on

The settings choose which groups of entries a report lists.  A report without its lists is
the report that is made when no group is chosen.

* `Settings.quiet` — settings that list nothing;
* `TaskOutcome.withoutLists`, `Execution.withoutLists` — reports without their lists;
* `planCreate_quiet`, `planDelete_quiet`, `planUpdate_quiet` — the same, for each plan;
* `Task.execute_quiet` — the same, for a task.
-/

/-- These settings with no group of entries chosen. -/
def Settings.quiet (s : Settings) : Settings :=
  { s with categories := Categories.none }

/-! ### Reports without lists -/

/-- The report without the created resources. -/
def CreateReport.withoutLists (r : CreateReport) : CreateReport :=
  { r with created := [] }

/-- The report with the sizes of the parts alone. -/
def DeleteReport.withoutLists (r : DeleteReport) : DeleteReport :=
  { r with skippedInfo := [], desiredInfo := [], explicitInfo := [] }

/-- The report with the numbers of updates alone. -/
def UpdateReport.withoutLists (r : UpdateReport) : UpdateReport :=
  { r with desiredInfo := [], explicitInfo := [] }

/-- The outcome without the lists of its report. -/
def TaskOutcome.withoutLists : TaskOutcome → TaskOutcome
  | create report => create report.withoutLists
  | delete report => delete report.withoutLists
  | update report => update report.withoutLists
  | assert outcome => assert outcome

/-- The result without the lists of its outcome. -/
def TaskResult.withoutLists (r : TaskResult) : TaskResult :=
  { r with outcome := r.outcome.map TaskOutcome.withoutLists }

/-- The execution without the lists of its result. -/
def Execution.withoutLists (x : Execution) : Execution :=
  { x with result := x.result.withoutLists }

/-! ### Plans -/

/-- The plan without the lists of its report. -/
def CreatePlan.withoutLists (p : CreatePlan) : CreatePlan :=
  { p with report := p.report.withoutLists }

/-- The plan without the lists of its report. -/
def DeletePlan.withoutLists (p : DeletePlan) : DeletePlan :=
  { p with report := p.report.withoutLists }

/-- The plan without the lists of its report. -/
def UpdatePlan.withoutLists (p : UpdatePlan) : UpdatePlan :=
  { p with report := p.report.withoutLists }

/-- The plan without the lists of its report. -/
def TemplatePlan.withoutLists : TemplatePlan → TemplatePlan
  | created plan => created plan.withoutLists
  | deleted plan => deleted plan.withoutLists

section Plans

variable (settings : Settings) (provenance : Provenance) (template : Document)
  (observed : List Resource)

/-- A creation plans the same when nothing is listed, apart from the lists. -/
theorem planCreate_quiet (replicas : UInt32) :
    planCreate settings.quiet provenance template replicas =
      (planCreate settings provenance template replicas).map CreatePlan.withoutLists := by
  unfold planCreate
  by_cases hzero : replicas = 0
  · rw [if_pos hzero, if_pos hzero]
    rfl
  · rw [if_neg hzero, if_neg hzero]
    cases parseTemplate template with
    | error e => rfl
    | ok r =>
      dsimp only [bind, Except.bind]
      cases r.baseName? <;> rfl

theorem planDelete_quiet (watch : Owner) :
    planDelete settings.quiet watch template observed =
      (planDelete settings watch template observed).map DeletePlan.withoutLists := by
  unfold planDelete
  cases parseTemplate template <;> rfl

theorem planTemplate_quiet (replicas : Option UInt32) :
    planTemplate settings.quiet provenance template replicas observed =
      (planTemplate settings provenance template replicas observed).map
        TemplatePlan.withoutLists := by
  unfold planTemplate
  split
  · rw [planDelete_quiet]
    cases planDelete settings provenance.watch template observed <;> rfl
  · rw [planCreate_quiet]
    cases planCreate settings provenance template (replicas.getD 1) <;> rfl

theorem planUpdate_quiet (merger : Merger) (watch : Owner) (patch : Document)
    (target : Selector) :
    planUpdate settings.quiet merger watch patch target observed =
      (planUpdate settings merger watch patch target observed).map UpdatePlan.withoutLists := by
  unfold planUpdate
  cases target.compile with
  | error e => rfl
  | ok selector =>
    dsimp only [bind, Except.bind, Except.mapError]
    split
    · rfl
    · cases (observed.filter selector.accepts).mapM (updateOne merger watch patch) <;> rfl

end Plans

/-! ### Tasks -/

/-- What the tasks of a run share, with settings that list nothing. -/
def TaskContext.quiet (ctx : TaskContext) : TaskContext :=
  { ctx with settings := ctx.settings.quiet }

namespace Task

variable (t : Task) (ctx : TaskContext)

theorem performAssert_withoutLists (a : Assertion) :
    (t.performAssert ctx a).map Execution.withoutLists = t.performAssert ctx a := by
  unfold performAssert
  cases a.evaluate ctx.observed with
  | error e => rfl
  | ok outcome =>
    dsimp only [bind, Except.bind, Except.mapError]
    split <;> rfl

/-- The work of a task, whatever it is, is the same but for the lists of its report. -/
theorem perform_quiet (replicas : Option UInt32) :
    t.perform ctx.quiet replicas = (t.perform ctx replicas).map Execution.withoutLists := by
  unfold perform
  -- By the members that the task has: assertion, patch with target, template.
  split
  · exact (performAssert_withoutLists t ctx _).symm
  · next patch target _ _ _ =>
    rw [performUpdate, performUpdate, TaskContext.quiet, planUpdate_quiet]
    cases planUpdate ctx.settings ctx.merger ctx.watch patch target ctx.observed <;> rfl
  · next template _ _ _ =>
    rw [performTemplate, performTemplate, TaskContext.quiet, planTemplate_quiet]
    cases planTemplate ctx.settings ⟨ctx.watch, some ctx.run, some t.key⟩ template replicas
      ctx.observed with
    | error e => rfl
    | ok plan => cases plan <;> rfl
  · rfl

/-- An attempt does the same when nothing is listed, apart from the lists. -/
theorem attempt_quiet :
    t.attempt ctx.quiet = (t.attempt ctx).map Execution.withoutLists := by
  -- Neither the faults of a task nor its guard depend on what is listed.
  show (t.validate ctx.settings >>= fun replicas => t.guardHolds ctx >>= fun holds =>
    if holds then t.perform ctx.quiet replicas else return t.stopped) = _
  unfold attempt
  cases t.validate ctx.settings with
  | error e => rfl
  | ok replicas =>
    cases t.guardHolds ctx with
    | error e => rfl
    | ok holds =>
      cases holds with
      | false => rfl
      | true => exact perform_quiet t ctx replicas

/-- A task is carried out in the same way, whatever is listed of it. -/
theorem execute_quiet : t.execute ctx.quiet = (t.execute ctx).withoutLists := by
  rw [execute, execute, attempt_quiet]
  cases t.attempt ctx <;> rfl

end Task

end Reconciler
