import Reconciler.Proofs.Host.Request

namespace Reconciler

/-!
# What a response says about its reconciliation

The status tells apart the ways that a request goes, and where its run is carried out it tells how
the tasks ended.

* `Run.reported`, `Run.reportedTasks` — the tasks of which a run reports an error;
* `ReconcileResponse.Reports` — what a truthful response says;
* `reconcile_reports` — every response is one.
-/

/-! ### The tasks that a run reports -/

namespace Run

variable {ctx : TaskContext} {tasks : List Task}

/-- The task `t` at the position `i` repeats a key, or it is carried out and ends in an
    error. -/
def reported (ctx : TaskContext) (tasks : List Task) (t : Task) (i : Nat) : Bool :=
  repeats tasks t i || (t.execute ctx).result.phase == .error

/-- The tasks of which an error is reported, in their order. -/
def reportedTasks (ctx : TaskContext) (tasks : List Task) : List Task :=
  (tasks.zipIdx.filter fun (t, i) => reported ctx tasks t i).map (·.1)

/-- An error is reported of exactly these tasks, and it names the task. -/
theorem errorOf_eq (ctx : TaskContext) (tasks : List Task) (t : Task) (i : Nat) :
    if reported ctx tasks t i then
      ∃ text, errorOf ctx tasks t i = some ("task " ++ t.key ++ ": " ++ text)
    else errorOf ctx tasks t i = none := by
  unfold reported errorOf
  have hduplicate : ": duplicate key, not executed" = ": " ++ "duplicate key, not executed" := rfl
  by_cases hrepeats : repeats tasks t i = true
  · simp only [hrepeats, Bool.true_or, if_true]
    exact ⟨"duplicate key, not executed", by rw [hduplicate, ← String.append_assoc]⟩
  · by_cases herror : (t.execute ctx).result.phase = .error
    · simp [hrepeats, herror]
    · simp [hrepeats, herror]

/-- One error for each of these tasks, in their order. -/
theorem forall₂_reportedTasks (ctx : TaskContext) (tasks : List Task) :
    List.Forall₂ (fun t entry => ∃ text, entry = "task " ++ t.key ++ ": " ++ text)
      (reportedTasks ctx tasks) (tasks.zipIdx.filterMap fun (t, i) => errorOf ctx tasks t i) := by
  rw [reportedTasks, List.forall₂_map_left_iff]
  -- Position by position, whatever list the keys are looked up in.
  induction tasks.zipIdx with
  | nil => exact .nil
  | cons p rest ih =>
    obtain ⟨t, i⟩ := p
    have herror := errorOf_eq ctx tasks t i
    rw [List.filter_cons, List.filterMap_cons]
    by_cases hreported : reported ctx tasks t i = true
    · rw [if_pos hreported] at herror
      obtain ⟨text, htext⟩ := herror
      simp only [hreported, if_true, htext]
      exact .cons ⟨text, rfl⟩ ih
    · rw [if_neg hreported] at herror
      simp only [hreported, Bool.false_eq_true, if_false, herror]
      exact ih

/-- The keys of the tasks that are carried out and whose assertion fails, in their order. -/
def failedKeys (ctx : TaskContext) (tasks : List Task) : List String :=
  ((kept tasks).filter fun t => (t.execute ctx).result.phase = .failed).map (·.key)

/-- The warning names the failed assertions of the tasks that are carried out. -/
theorem assertWarning_kept (ctx : TaskContext) (tasks : List Task) :
    assertWarning ((kept tasks).map fun t => (t.execute ctx).result) =
      if failedKeys ctx tasks = [] then none
      else some ("assert failed: " ++ String.intercalate ", " (failedKeys ctx tasks)) := by
  have hkeys : failedAsserts ((kept tasks).map fun t => (t.execute ctx).result) =
      failedKeys ctx tasks := by
    rw [failedAsserts, failedKeys, List.filter_map, List.map_map]
    refine congrArg₂ List.map (funext fun t => Task.key_execute t ctx) ?_
    exact congrArg (List.filter · (kept tasks)) (funext fun t => beq_eq_decide _ _)
  rw [assertWarning, hkeys]
  cases failedKeys ctx tasks <;> rfl

end Run

/-! ### The response to each way -/

section Response

variable {e : Engine} {r : ReconcileRequest} {spec : RunSpec}

/-- A request that fails gets the response to its error. -/
theorem reconcile_of_fails {error : ReconcileError} (h : r.Fails error) :
    reconcile e r = .ofError error := by
  rw [reconcile, ReconcileRequest.plan_of_fails h]

/-- A run that is skipped has none of its tasks carried out. -/
theorem reconcile_of_skips (h : r.Skips spec) :
    reconcile e r = .ofOutcome (Run.stopped spec.tasks.length) := by
  rw [reconcile, ReconcileRequest.plan_of_complete h.specifies h.complete h.guard]
  rfl

/-- Otherwise its tasks are carried out one after the other. -/
theorem reconcile_of_runs (h : r.Runs spec) :
    reconcile e r = .ofOutcome (Run.ofSteps (Run.steps (r.taskContext e) [] spec.tasks)) := by
  rw [reconcile, ReconcileRequest.plan_of_complete h.specifies h.complete h.guard]
  rfl

/-- The response to a run, from the results and the errors of its tasks. -/
theorem ofOutcome_summarize (delta : Delta) (n : Nat) (results : List TaskResult)
    (errors : List String) :
    (ReconcileResponse.ofOutcome ⟨delta, Run.summarize n results errors⟩).status =
      { phase := if errors = [] then .online else .error
        reason := if errors = [] then none else some (String.intercalate "; " errors)
        warn := assertWarning results
        completion := (Run.summarize n results errors).completion
        taskResults := results } := by
  cases errors <;> rfl

/-- The status of a run, from the errors that are reported of its tasks and from the failed
    assertions. -/
theorem status_of_runs (h : r.Runs spec) {ctx : TaskContext} (hctx : r.taskContext e = ctx)
    {errors : List String}
    (herrors : (spec.tasks.zipIdx.filterMap fun (t, i) => Run.errorOf ctx spec.tasks t i) = errors) :
    (reconcile e r).status.phase = (if errors = [] then .online else .error) ∧
      (reconcile e r).status.reason =
        (if errors = [] then none else some (String.intercalate "; " errors)) ∧
      ((reconcile e r).status.completion.state = true ↔ errors = []) ∧
      (reconcile e r).status.taskResults =
        ((Run.kept spec.tasks).map fun t => (t.execute ctx).result) ∧
      (reconcile e r).status.warn =
        (if Run.failedKeys ctx spec.tasks = [] then none
          else some ("assert failed: " ++
            String.intercalate ", " (Run.failedKeys ctx spec.tasks))) := by
  subst hctx herrors
  -- All but the warning is what the run aggregates of its tasks.
  have haggregates := Run.aggregates_ofSteps (r.taskContext e) spec.tasks
  have hcompleted := haggregates.all_completed
  have hresults := haggregates.taskResults
  simp only [Run.ofSteps, Run.errors_summarize] at hcompleted
  simp only [Run.ofSteps, Run.taskResults_summarize] at hresults
  rw [reconcile_of_runs h, Run.ofSteps, ofOutcome_summarize, ← Run.assertWarning_kept,
    ← Run.filterMap_error?_steps]
  exact ⟨rfl, rfl, hcompleted, hresults, congrArg assertWarning hresults⟩

end Response

/-! ### Truthful responses -/

/-- What a truthful response says of a request. -/
structure ReconcileResponse.Reports (e : Engine) (r : ReconcileRequest) (x : ReconcileResponse) :
    Prop where
  /-- The phase is an error when the request fails, or when its run is carried out and a task
      repeats a key or ends in an error, and only then. -/
  phase_eq_error : x.status.phase = .error ↔
    (∃ error, r.Fails error) ∨
      ∃ spec, r.Runs spec ∧ Run.reportedTasks (r.taskContext e) spec.tasks ≠ []
  /-- A reason is given for every error, and for nothing else. -/
  reason : x.status.reason.isSome = true ↔ x.status.phase = .error
  /-- A request that fails returns nothing and reports no task, and the reason is its error. -/
  failed : ∀ error, r.Fails error →
    x.delta = ⟨[], [], []⟩ ∧ x.status.taskResults = [] ∧ x.status.completion = ⟨false, 0, 0⟩ ∧
      x.status.reason = some (String.intercalate ": " error.causes)
  /-- A run that is carried out reports the results of its tasks. -/
  results : ∀ spec, r.Runs spec → x.status.taskResults =
    (Run.kept spec.tasks).map fun t => (t.execute (r.taskContext e)).result
  /-- The reason for the error of a run names the tasks, one after the other. -/
  entries : ∀ spec, r.Runs spec → x.status.phase = .error →
    ∃ entries, x.status.reason = some (String.intercalate "; " entries) ∧
      List.Forall₂ (fun t entry => ∃ text, entry = "task " ++ t.key ++ ": " ++ text)
        (Run.reportedTasks (r.taskContext e) spec.tasks) entries
  /-- Everything is completed when there is no error and no run was skipped. -/
  completed : x.status.completion.state = true ↔
    x.status.phase = .online ∧ ¬ ∃ spec, r.Skips spec
  /-- A run that was skipped returns nothing, and the warning says so. -/
  skipped : ∀ spec, r.Skips spec →
    x.delta = ⟨[], [], []⟩ ∧ x.status.warn = some "Run didn't execute: If cond failed"
  /-- Any other warning is about tasks whose assertion failed, -/
  warn : (¬ ∃ spec, r.Skips spec) →
    (x.status.warn.isSome = true ↔
      ∃ spec, r.Runs spec ∧ Run.failedKeys (r.taskContext e) spec.tasks ≠ [])
  /-- and it names these, one after the other. -/
  warning : ∀ spec text, r.Runs spec → x.status.warn = some text →
    text = "assert failed: " ++
      String.intercalate ", " (Run.failedKeys (r.taskContext e) spec.tasks)

section Reports

variable {e : Engine} {r : ReconcileRequest} {spec : RunSpec}

/-- A request that fails is reported with its error, and nothing is changed. -/
theorem reports_of_fails {error : ReconcileError} (h : r.Fails error) :
    (reconcile e r).Reports e r := by
  have hx : reconcile e r = .ofError error := reconcile_of_fails h
  have hruns : ¬ ∃ spec, r.Runs spec := fun ⟨_, hruns⟩ => hruns.not_fails ⟨error, h⟩
  constructor
  case phase_eq_error => exact ⟨fun _ => .inl ⟨error, h⟩, fun _ => by rw [hx]; rfl⟩
  case reason =>
    rw [hx]
    exact ⟨fun _ => rfl, fun _ => rfl⟩
  case failed =>
    -- Whatever error the request fails with, it gets the response to that.
    intro error' h'
    rw [reconcile_of_fails h']
    exact ⟨rfl, rfl, rfl, rfl⟩
  case results => exact fun spec hspec => absurd ⟨spec, hspec⟩ hruns
  case entries => exact fun spec hspec => absurd ⟨spec, hspec⟩ hruns
  case completed =>
    rw [hx]
    exact ⟨nofun, nofun⟩
  case skipped => exact fun spec hskips => absurd ⟨error, h⟩ hskips.not_fails
  case warn =>
    rw [hx]
    exact fun _ => ⟨nofun, fun ⟨spec, hspec, _⟩ => absurd ⟨spec, hspec⟩ hruns⟩
  case warning => exact fun spec _ hspec => absurd ⟨spec, hspec⟩ hruns

/-- A request whose guard does not hold is reported as skipped, and nothing is changed. -/
theorem reports_of_skips (h : r.Skips spec) : (reconcile e r).Reports e r := by
  -- All parts that speak of a failure or of a run are void.
  have hruns : ¬ ∃ spec, r.Runs spec := fun ⟨_, hruns⟩ => hruns.not_skips ⟨spec, h⟩
  rw [reconcile_of_skips h]
  constructor
  case phase_eq_error =>
    exact ⟨nofun, fun h' => h'.elim (absurd · h.not_fails)
      fun ⟨spec, hspec, _⟩ => absurd ⟨spec, hspec⟩ hruns⟩
  case reason => exact ⟨nofun, nofun⟩
  case failed => exact fun error hfails => absurd ⟨error, hfails⟩ h.not_fails
  case results => exact fun spec hspec => absurd ⟨spec, hspec⟩ hruns
  case entries => exact fun spec hspec => absurd ⟨spec, hspec⟩ hruns
  case completed => exact ⟨nofun, fun h' => absurd ⟨spec, h⟩ h'.2⟩
  case skipped => exact fun _ _ => ⟨rfl, rfl⟩
  case warn => exact (absurd ⟨spec, h⟩ ·)
  case warning => exact fun spec _ hspec => absurd ⟨spec, hspec⟩ hruns

/-- A request that runs is reported by the results of its tasks. -/
theorem reports_of_runs (h : r.Runs spec) : (reconcile e r).Reports e r := by
  have hentries := Run.forall₂_reportedTasks (r.taskContext e) spec.tasks
  obtain ⟨hphase, hreason, hcompleted, hresults, hwarn⟩ := status_of_runs (e := e) h rfl rfl
  generalize (spec.tasks.zipIdx.filterMap fun (t, i) =>
    Run.errorOf (r.taskContext e) spec.tasks t i) = errors at *
  -- A run has no other spec, and there is an error exactly when a task is reported.
  have hunique : ∀ {spec'}, r.Runs spec' → spec' = spec := fun h' => h'.unique h
  have herrors : errors = [] ↔ Run.reportedTasks (r.taskContext e) spec.tasks = [] := by
    rw [← List.length_eq_zero_iff, ← hentries.length_eq, List.length_eq_zero_iff]
  constructor
  case phase_eq_error =>
    rw [hphase]
    constructor
    · intro herror
      refine .inr ⟨spec, h, ?_⟩
      rw [ne_eq, ← herrors]
      rintro rfl
      cases herror
    · rintro (hfails | ⟨spec', h', hreported⟩)
      · exact absurd hfails h.not_fails
      · obtain rfl := hunique h'
        rw [if_neg (mt herrors.mp hreported)]
  case reason =>
    rw [hphase, hreason]
    split <;> simp
  case failed => exact fun error hfails => absurd ⟨error, hfails⟩ h.not_fails
  case results =>
    intro spec' h'
    obtain rfl := hunique h'
    exact hresults
  case entries =>
    intro spec' h' herror
    obtain rfl := hunique h'
    refine ⟨errors, ?_, hentries⟩
    rw [hphase] at herror
    rw [hreason, if_neg]
    rintro rfl
    cases herror
  case completed =>
    rw [hcompleted, hphase]
    split
    · next hnil => exact ⟨fun _ => ⟨rfl, h.not_skips⟩, fun _ => hnil⟩
    · next hsome => exact ⟨fun hnil => absurd hnil hsome, fun h' => nomatch h'.1⟩
  case skipped => exact fun spec' h' => absurd ⟨spec', h'⟩ h.not_skips
  case warn =>
    intro _
    rw [hwarn]
    constructor
    · intro hsome
      refine ⟨spec, h, fun hnil => ?_⟩
      rw [if_pos hnil] at hsome
      cases hsome
    · rintro ⟨spec', h', hfailed⟩
      obtain rfl := hunique h'
      rw [if_neg hfailed]
      rfl
  case warning =>
    intro spec' text h' htext
    obtain rfl := hunique h'
    rw [hwarn] at htext
    split at htext
    · cases htext
    · exact (Option.some.inj htext).symm

end Reports

/-- Every response is truthful. -/
theorem reconcile_reports (e : Engine) (r : ReconcileRequest) :
    (reconcile e r).Reports e r := by
  rcases r.fails_or_skips_or_runs with ⟨error, h⟩ | ⟨spec, h⟩ | ⟨spec, h⟩
  · exact reports_of_fails h
  · exact reports_of_skips h
  · exact reports_of_runs h

namespace Recipes

/-- A watched resource with this spec. -/
def recipe (spec : Document) : Resource :=
  ⟨"dev.converge/v1", "Recipe",
    { Metadata.empty with name := some "w", uid := some "w-uid" }, [("spec", spec)]⟩

/-- A pod is attached to it. -/
def request (spec : Document) : ReconcileRequest :=
  .ofResources (recipe spec) [⟨"v1", "Pod", { Metadata.empty with name := some "web" }, []⟩]

/-- A task that asserts nothing. -/
def task (key : String) : Task :=
  ⟨key, none, none, some ⟨.any, []⟩, none, none, none⟩

/-- Two tasks with one key. -/
def repeating : RunSpec := ⟨[task "a", task "a"], none⟩

/-- A task for the time when there is a job. -/
def waiting : RunSpec := ⟨[task "a"], some ⟨.any, [.ofSelector (.ofKind "Job")]⟩⟩

/-- The engine with the usual settings. -/
def engine : Engine := .ofSettings .default

/-- These requests have all the parts that a run needs. -/
theorem complete {spec : RunSpec} (d : Document) (h : spec.tasks ≠ []) :
    (request d).Complete spec :=
  ⟨⟨"w-uid", rfl, by decide⟩, ⟨"w", rfl, by decide⟩, h⟩

/-- The tasks of this watch run: it has no guard. -/
theorem runs_repeating : (request repeating.encode).Runs repeating where
  specifies := .present rfl rfl
  complete := complete _ nofun
  guard := .unguarded rfl

/-- This watch waits for a job that is not there, so its tasks do not run. -/
theorem skips_waiting : (request waiting.encode).Skips waiting where
  specifies := .present rfl rfl
  complete := complete _ nofun
  guard := .answered rfl (o := ⟨false, 1⟩) (Assertion.evaluate_eq_iff.mp (by decide +kernel))

end Recipes

open Recipes in
/-- A spec that does not read, a key that is repeated, and a guard that waits. -/
theorem reconcile_reports_recipes :
    (∃ error, (request (.str "a")).Fails error) ∧
      (reconcile engine (request (.str "a"))).status.phase = .error ∧
      (reconcile engine (request (.str "a"))).status.taskResults = [] ∧
      (request repeating.encode).Runs repeating ∧
      (∃ text, (reconcile engine (request repeating.encode)).status.reason =
        some ("task " ++ "a" ++ ": " ++ text)) ∧
      (request waiting.encode).Skips waiting ∧
      (reconcile engine (request waiting.encode)).status.warn =
        some "Run didn't execute: If cond failed" := by
  have hbroken := reconcile_reports engine (request (.str "a"))
  have hrepeating := reconcile_reports engine (request repeating.encode)
  have hwaiting := reconcile_reports engine (request waiting.encode)
  obtain ⟨error, hfails⟩ : ∃ error, (request (.str "a")).Fails error := ⟨_, .unreadable rfl rfl⟩
  obtain ⟨-, hresults, -⟩ := hbroken.failed error hfails
  -- The second task is reported, for its key.
  have hreported : Run.reportedTasks ((request repeating.encode).taskContext engine)
      repeating.tasks = [task "a"] := rfl
  have hphase := hrepeating.phase_eq_error.mpr
    (.inr ⟨repeating, runs_repeating, by rw [hreported]; nofun⟩)
  obtain ⟨entries, hreason, hentries⟩ := hrepeating.entries repeating runs_repeating hphase
  rw [hreported, List.forall₂_cons_left_iff] at hentries
  obtain ⟨entry, rest, ⟨text, rfl⟩, hrest, rfl⟩ := hentries
  obtain rfl := List.forall₂_nil_left_iff.mp hrest
  exact ⟨⟨error, hfails⟩, hbroken.phase_eq_error.mpr (.inl ⟨error, hfails⟩), hresults,
    runs_repeating, ⟨text, hreason⟩, skips_waiting, (hwaiting.skipped waiting skips_waiting).2⟩

end Reconciler
