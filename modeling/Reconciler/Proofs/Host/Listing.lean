import Reconciler.Host.Reconcile
import Reconciler.Proofs.Task.Listing

namespace Reconciler

/-!
# Reconciling with and without lists

* `Run.steps_quiet`, `Engine.run_quiet` — a run lists nothing, and is otherwise the same;
* `reconcile_quiet` — the response without its lists is the one of an engine that lists
  nothing;
* `reconcile_categories` — two engines that list different groups of entries answer alike.
-/

/-! ### Runs -/

/-- The step without the lists of its execution. -/
def Run.Step.withoutLists : Run.Step → Run.Step
  | duplicate key => duplicate key
  | executed execution => executed execution.withoutLists

/-- The status without the lists of its results. -/
def RunStatus.withoutLists (s : RunStatus) : RunStatus :=
  { s with taskResults := s.taskResults.map TaskResult.withoutLists }

/-- The outcome without the lists of its status. -/
def RunOutcome.withoutLists (o : RunOutcome) : RunOutcome :=
  { o with status := o.status.withoutLists }

/-- The engine with settings that list nothing. -/
def Engine.quiet (e : Engine) : Engine :=
  { e with settings := e.settings.quiet }

namespace Run

/-- What becomes of each task depends on the settings by the lists alone. -/
theorem steps_quiet (ctx : TaskContext) (seen : List String) (tasks : List Task) :
    steps ctx.quiet seen tasks = (steps ctx seen tasks).map Step.withoutLists := by
  induction tasks generalizing seen with
  | nil => rfl
  | cons t rest ih =>
    rw [steps, steps, Task.execute_quiet, ih, ih]
    split
    · rfl
    · split <;> rfl

/-- A step without lists has its execution, if it has one, without lists. -/
theorem execution?_withoutLists (step : Step) :
    step.withoutLists.execution? = step.execution?.map Execution.withoutLists := by
  cases step <;> rfl

/-- Errors are told from the keys, the phases and the messages, which no list is part of. -/
theorem error?_withoutLists (step : Step) : step.withoutLists.error? = step.error? := by
  cases step <;> rfl

/-- The status is counted over phases and errors, which have no lists in them. -/
theorem summarize_withoutLists (tasks : Nat) (results : List TaskResult) (errors : List String) :
    summarize tasks (results.map TaskResult.withoutLists) errors =
      (summarize tasks results errors).withoutLists := by
  have hobserved : (results.map TaskResult.withoutLists).countP (·.completed) =
      results.countP (·.completed) := by
    rw [List.countP_map]
    rfl
  unfold summarize
  rw [hobserved]
  split <;> rfl

/-- The outcome of steps without lists is their outcome without lists. -/
theorem ofSteps_withoutLists (steps : List Step) :
    ofSteps (steps.map Step.withoutLists) = (ofSteps steps).withoutLists := by
  -- Nothing that a run sums up looks at the lists.
  have herrors : (steps.map Step.withoutLists).filterMap Step.error? =
      steps.filterMap Step.error? := by
    rw [List.filterMap_map]
    exact congrArg (List.filterMap · steps) (funext error?_withoutLists)
  have hexecutions : (steps.map Step.withoutLists).filterMap Step.execution? =
      (steps.filterMap Step.execution?).map Execution.withoutLists := by
    rw [List.filterMap_map, List.map_filterMap]
    exact congrArg (List.filterMap · steps) (funext execution?_withoutLists)
  have hdeltas : ((steps.filterMap Step.execution?).map Execution.withoutLists).map (·.delta) =
      (steps.filterMap Step.execution?).map (·.delta) := by
    rw [List.map_map]
    rfl
  have hresults : ((steps.filterMap Step.execution?).map Execution.withoutLists).map (·.result) =
      ((steps.filterMap Step.execution?).map (·.result)).map TaskResult.withoutLists := by
    rw [List.map_map, List.map_map]
    rfl
  rw [ofSteps, hexecutions, herrors, hdeltas, hresults, List.length_map, summarize_withoutLists]
  rfl

end Run

/-- A run of a quiet engine is the run without its lists. -/
theorem Engine.run_quiet (e : Engine) (r : RunRequest) :
    e.quiet.run r = (e.run r).map RunOutcome.withoutLists := by
  -- Validation and guard do not look at the settings, so only the tasks are to be compared.
  have hsteps : Run.ofSteps (Run.steps (e.quiet.context r) [] r.spec.tasks) =
      (Run.ofSteps (Run.steps (e.context r) [] r.spec.tasks)).withoutLists := by
    rw [← Run.ofSteps_withoutLists, ← Run.steps_quiet]
    rfl
  unfold run
  cases r.validate with
  | error error => rfl
  | ok _ =>
    cases r.guardHolds with
    | error error => rfl
    | ok holds =>
      cases holds with
      | false => rfl
      | true => exact congrArg Except.ok hsteps

/-! ### Responses -/

/-- The status without the lists of its results. -/
def StatusPatch.withoutLists (s : StatusPatch) : StatusPatch :=
  { s with taskResults := s.taskResults.map TaskResult.withoutLists }

/-- The response without the lists of its status. -/
def ReconcileResponse.withoutLists (x : ReconcileResponse) : ReconcileResponse :=
  { x with status := x.status.withoutLists }

/-- Failed assertions are told by their phases. -/
theorem failedAsserts_withoutLists (results : List TaskResult) :
    failedAsserts (results.map TaskResult.withoutLists) = failedAsserts results := by
  rw [failedAsserts, failedAsserts, List.filter_map, List.map_map]
  rfl

/-- The response to an outcome without lists is its response without lists. -/
theorem ofOutcome_withoutLists (o : RunOutcome) :
    ReconcileResponse.ofOutcome o.withoutLists =
      (ReconcileResponse.ofOutcome o).withoutLists := by
  -- The warning names failed assertions, which list nothing.
  have hwarning : assertWarning (o.status.taskResults.map TaskResult.withoutLists) =
      assertWarning o.status.taskResults := by
    rw [assertWarning, failedAsserts_withoutLists]
    rfl
  obtain ⟨delta, phase, reason, message, completion, taskResults, errors⟩ := o
  cases phase with
  | skipped => rfl
  | _ =>
    dsimp only [ReconcileResponse.ofOutcome, RunOutcome.withoutLists, RunStatus.withoutLists]
    rw [hwarning]
    rfl

/-- The response of a quiet engine is the response without its lists. -/
theorem reconcile_quiet (e : Engine) (r : ReconcileRequest) :
    reconcile e.quiet r = (reconcile e r).withoutLists := by
  have hplan : r.plan e.quiet = (r.plan e).map RunOutcome.withoutLists := by
    unfold ReconcileRequest.plan
    cases r.runSpec with
    | error error => rfl
    | ok spec =>
      dsimp only [bind, Except.bind]
      rw [Engine.run_quiet]
      cases e.run (r.runRequest spec) <;> rfl
  rw [reconcile, reconcile, hplan]
  cases r.plan e with
  | error error => rfl
  | ok outcome => exact ofOutcome_withoutLists outcome

/-- Two engines that differ in what they list return the same resources for every request,
    and report the same of them apart from the lists: which groups of entries are chosen
    shows in no phase, message, count, reason, warning or completion. -/
theorem reconcile_categories (merger : Merger) (limit : UInt32) (separator : String)
    (chosen chosen' : Categories) (r : ReconcileRequest) :
    (reconcile ⟨⟨chosen, limit, separator⟩, merger⟩ r).delta =
        (reconcile ⟨⟨chosen', limit, separator⟩, merger⟩ r).delta ∧
      (reconcile ⟨⟨chosen, limit, separator⟩, merger⟩ r).status.withoutLists =
        (reconcile ⟨⟨chosen', limit, separator⟩, merger⟩ r).status.withoutLists := by
  -- Both engines are the same one when they list nothing.
  have hquiet : ∀ c : Categories,
      (reconcile ⟨⟨c, limit, separator⟩, merger⟩ r).withoutLists =
        reconcile ⟨⟨Categories.none, limit, separator⟩, merger⟩ r :=
    fun c => (reconcile_quiet ⟨⟨c, limit, separator⟩, merger⟩ r).symm
  have hsame := (hquiet chosen).trans (hquiet chosen').symm
  have hdelta := congrArg ReconcileResponse.delta hsame
  have hstatus := congrArg ReconcileResponse.status hsame
  exact ⟨hdelta, hstatus⟩

end Reconciler
