import Reconciler.Run.Status
import Reconciler.Task.Execution

namespace Reconciler

/-!
# Runs

A run carries out its tasks one after the other against the same observed
resources.  A task whose key has occurred before is not carried out.

* `Engine` — the settings and the merge of every run;
* `RunError` — why a run is not carried out at all;
* `Run.steps` — what becomes of each task;
* `Engine.run` — the whole run;
* `RunOutcome` — its resources and its status.
-/

/-- The settings and the merge of every run. -/
structure Engine where
  settings : Settings
  merger : Merger

/-- The engine with the usual merge. -/
def Engine.ofSettings (settings : Settings) : Engine := ⟨settings, threeWay⟩

/-- What is missing from a run. -/
inductive RunFault where
  | runUid
  | runName
  | watchUid
  | tasks
deriving DecidableEq, Repr

/-- The wording of a fault. -/
def RunFault.message : RunFault → String
  | runUid => "run uid is empty"
  | runName => "run name is empty"
  | watchUid => "watch uid is empty"
  | tasks => "run has no tasks"

/-- Why a run is not carried out at all. -/
inductive RunError where
  | invalid (fault : RunFault)
  | guard (error : SelectError)
deriving DecidableEq

namespace RunError

/-- The wording of a cause. -/
def message : RunError → String
  | invalid fault => "invalid run: " ++ fault.message
  | guard error => "evaluating run if: " ++ error.message

/-- The wording together with the causes behind it, outermost first. -/
def causes : RunError → List String
  | e@(invalid _) => [e.message]
  | e@(guard error) => e.message :: error.causes

end RunError

/-- What a run is about. -/
structure RunRequest where
  run : Owner
  watch : Owner
  spec : RunSpec
  observed : List Resource

/-- The resources and the status of a run. -/
structure RunOutcome where
  delta : Delta
  status : RunStatus

/-- What a run says that its guard has stopped. -/
def runGuardSkipped : String := "Run didn't execute: If cond failed"

namespace Run

/-! ### Tasks -/

/-- What becomes of a task. -/
inductive Step where
  /-- Its key has occurred before. -/
  | duplicate (key : String)
  | executed (execution : Execution)

/-- What becomes of each task, after tasks with the keys `seen`.  A blank key is no
    duplicate; its task fails by itself. -/
def steps (ctx : TaskContext) (seen : List String) : List Task → List Step
  | [] => []
  | t :: rest =>
    if Text.allBlank t.key then .executed (t.execute ctx) :: steps ctx seen rest
    else if seen.contains t.key then .duplicate t.key :: steps ctx seen rest
    else .executed (t.execute ctx) :: steps ctx (t.key :: seen) rest

/-- The execution of a task that was carried out. -/
def Step.execution? : Step → Option Execution
  | duplicate _ => none
  | executed execution => some execution

/-- What a run reports of a task that was not carried out, or that failed. -/
def Step.error? : Step → Option String
  | duplicate key => some ("task " ++ key ++ ": duplicate key, not executed")
  | executed execution =>
    if execution.result.completed then none
    else some ("task " ++ execution.result.key ++ ": " ++ execution.result.message)

/-! ### Status -/

/-- The status of a run of `tasks` tasks with these results and errors. -/
def summarize (tasks : Nat) (results : List TaskResult) (errors : List String) : RunStatus :=
  let observed := results.countP (·.completed)
  let completion : Completion := ⟨observed == tasks, observed, tasks⟩
  if errors.isEmpty then
    { phase := .online
      reason := none
      message := some (toString observed ++ "/" ++ toString tasks ++ " tasks completed")
      completion
      taskResults := results
      errors }
  else
    { phase := .error
      reason := some (toString errors.length ++ " error(s) in run")
      message := some (String.intercalate "; " errors)
      completion
      taskResults := results
      errors }

/-- The outcome of a run that its guard has stopped. -/
def stopped (tasks : Nat) : RunOutcome where
  delta := Delta.empty
  status :=
    { phase := .skipped
      reason := some runGuardSkipped
      message := none
      completion := ⟨false, 0, tasks⟩
      taskResults := []
      errors := [] }

/-- The outcome of a run from what became of its tasks. -/
def ofSteps (steps : List Step) : RunOutcome :=
  let executions := steps.filterMap Step.execution?
  { delta := Delta.concat (executions.map (·.delta))
    status :=
      summarize steps.length (executions.map (·.result)) (steps.filterMap Step.error?) }

end Run

/-! ### The whole run -/

/-- A run needs a uid and a name, its watch a uid, and there must be a task. -/
def RunRequest.validate (r : RunRequest) : Except RunError Unit :=
  if r.run.uid.isEmpty then .error (.invalid .runUid)
  else if r.run.name.isEmpty then .error (.invalid .runName)
  else if r.watch.uid.isEmpty then .error (.invalid .watchUid)
  else if r.spec.tasks.isEmpty then .error (.invalid .tasks)
  else .ok ()

/-- Whether the guard of a run, if it has one, lets it run. -/
def RunRequest.guardHolds (r : RunRequest) : Except RunError Bool :=
  match r.spec.guard with
  | none => .ok true
  | some a => (a.evaluate r.observed).mapError .guard |>.map (·.success)

/-- What the tasks of a run share. -/
def Engine.context (e : Engine) (r : RunRequest) : TaskContext :=
  ⟨r.observed, r.watch, r.run, e.merger, e.settings⟩

/-- Carries out a run. -/
def Engine.run (e : Engine) (r : RunRequest) : Except RunError RunOutcome := do
  r.validate
  if ← r.guardHolds then
    return Run.ofSteps (Run.steps (e.context r) [] r.spec.tasks)
  else
    return Run.stopped r.spec.tasks.length

end Reconciler
