import Mathlib.Data.List.Forall2
import Reconciler.Proofs.Task.Execution
import Reconciler.Run.Basic

namespace Reconciler

/-!
# What a run returns of its tasks

A run leaves out the tasks that repeat a key and joins what the others contribute.

* `Run.repeats`, `Run.kept` — the tasks left out and the tasks carried out, by their
  positions;
* `Run.Registers` — what the list of keys seen so far means;
* `Run.steps_eq` — what becomes of each task, by its position;
* `Run.Joins` — the lists of resources that are concatenated;
* `Run.Aggregates` — the outcome of a run from the executions of its tasks;
* `Engine.run_eq_ok` — when a run is carried out, and what it returns;
* `Engine.run_aggregates` — a run that its guard lets run returns the aggregate.
-/

namespace Run

/-! ### Tasks that are carried out -/

/-- The task `t` at the position `i` has the key of an earlier task.  A blank key repeats
    nothing. -/
def repeats (tasks : List Task) (t : Task) (i : Nat) : Bool :=
  !Text.allBlank t.key && (tasks.take i).any (·.key == t.key)

/-- The tasks that repeat no key, in their order. -/
def kept (tasks : List Task) : List Task :=
  (tasks.zipIdx.filter fun (t, i) => !repeats tasks t i).map (·.1)

/-- What a run reports of the task `t` at the position `i`. -/
def errorOf (ctx : TaskContext) (tasks : List Task) (t : Task) (i : Nat) : Option String :=
  if repeats tasks t i then some ("task " ++ t.key ++ ": duplicate key, not executed")
  else if (t.execute ctx).result.phase = .error then
    some ("task " ++ t.key ++ ": " ++ (t.execute ctx).result.message)
  else none

/-- What becomes of the task `t` at the position `i`. -/
def stepOf (ctx : TaskContext) (tasks : List Task) (t : Task) (i : Nat) : Step :=
  if repeats tasks t i then .duplicate t.key else .executed (t.execute ctx)

/-! ### The keys seen so far -/

/-- The keys seen are those of the tasks so far, except the blank ones. -/
def Registers (seen : List String) (earlier : List Task) : Prop :=
  ∀ k, k ∈ seen ↔ Text.allBlank k = false ∧ ∃ t ∈ earlier, t.key = k

/-- Before the first task no key has been seen. -/
theorem registers_nil : Registers [] [] := by
  simp [Registers]

section Registers

variable {seen : List String} {earlier : List Task} {t : Task}

/-- A key counts as repeated when it is among those seen. -/
theorem Registers.repeats_eq (h : Registers seen earlier) (rest : List Task)
    (hblank : Text.allBlank t.key = false) :
    repeats (earlier ++ rest) t earlier.length = seen.contains t.key := by
  rw [repeats, List.take_left, hblank, Bool.eq_iff_iff, List.contains_iff_mem, h t.key]
  simp [hblank]

/-- A task with a blank key or with a key seen before leaves the keys as they are. -/
theorem Registers.append_of_seen (h : Registers seen earlier)
    (ht : Text.allBlank t.key = true ∨ t.key ∈ seen) : Registers seen (earlier ++ [t]) := by
  intro k
  rw [h k]
  refine and_congr_right fun hk => ?_
  constructor
  · rintro ⟨t', ht', rfl⟩
    exact ⟨t', List.mem_append_left _ ht', rfl⟩
  · rintro ⟨t', ht', rfl⟩
    rcases List.mem_append.mp ht' with ht' | ht'
    · exact ⟨t', ht', rfl⟩
    · obtain rfl := List.mem_singleton.mp ht'
      -- The key of this task is blank, or it has been there before.
      rcases ht with ht | ht
      · rw [ht] at hk
        exact absurd hk (by simp)
      · exact ((h _).mp ht).2

/-- The key of any other task is one more. -/
theorem Registers.append_of_new (h : Registers seen earlier)
    (hblank : Text.allBlank t.key = false) : Registers (t.key :: seen) (earlier ++ [t]) := by
  intro k
  rw [List.mem_cons, h k]
  constructor
  · rintro (rfl | ⟨hk, t', ht', rfl⟩)
    · exact ⟨hblank, t, by simp, rfl⟩
    · exact ⟨hk, t', by simp [ht'], rfl⟩
  · rintro ⟨hk, t', ht', rfl⟩
    rcases List.mem_append.mp ht' with ht' | ht'
    · exact .inr ⟨hk, t', ht', rfl⟩
    · exact .inl (by rw [List.mem_singleton.mp ht'])

end Registers

/-! ### Steps by position -/

/-- The steps of the tasks after `earlier`. -/
theorem steps_eq_of_registers (ctx : TaskContext) {seen : List String} {earlier : List Task}
    (h : Registers seen earlier) (rest : List Task) :
    steps ctx seen rest =
      (rest.zipIdx earlier.length).map fun (t, i) => stepOf ctx (earlier ++ rest) t i := by
  -- On the remaining tasks; the keys seen register all tasks before them.
  induction rest generalizing seen earlier with
  | nil => rfl
  | cons t rest ih =>
    have happend : earlier ++ t :: rest = earlier ++ [t] ++ rest := by simp
    have hlength : earlier.length + 1 = (earlier ++ [t]).length := by simp
    rw [steps, List.zipIdx_cons, List.map_cons]
    by_cases hblank : Text.allBlank t.key = true
    · have hrepeats : repeats (earlier ++ t :: rest) t earlier.length = false := by
        simp [repeats, hblank]
      rw [if_pos hblank, ih (h.append_of_seen (.inl hblank)), ← hlength, ← happend]
      simp only [stepOf, hrepeats, Bool.false_eq_true, if_false]
    · have hrepeats := h.repeats_eq (t :: rest) (Bool.eq_false_iff.mpr hblank)
      rw [if_neg hblank]
      by_cases hseen : seen.contains t.key = true
      · rw [if_pos hseen, ih (h.append_of_seen (.inr (List.contains_iff_mem.mp hseen))),
          ← hlength, ← happend]
        simp only [stepOf, hrepeats, hseen, if_true]
      · rw [if_neg hseen, ih (h.append_of_new (Bool.eq_false_iff.mpr hblank)), ← hlength,
          ← happend]
        simp only [stepOf, hrepeats, hseen, Bool.false_eq_true, if_false]

/-- What becomes of each task, by its position. -/
theorem steps_eq (ctx : TaskContext) (tasks : List Task) :
    steps ctx [] tasks = tasks.zipIdx.map fun (t, i) => stepOf ctx tasks t i :=
  steps_eq_of_registers ctx registers_nil tasks

/-- The executions of a run are those of the tasks that repeat no key. -/
theorem filterMap_execution?_steps (ctx : TaskContext) (tasks : List Task) :
    (steps ctx [] tasks).filterMap Step.execution? = (kept tasks).map (·.execute ctx) := by
  rw [steps_eq, kept]
  -- Position by position, whatever list `repeats` looks its keys up in.
  induction tasks.zipIdx with
  | nil => rfl
  | cons p rest ih =>
    obtain ⟨t, i⟩ := p
    rw [List.map_cons, List.filterMap_cons, List.filter_cons, ih]
    by_cases h : repeats tasks t i = true
    · simp [stepOf, h, Step.execution?]
    · simp [stepOf, h, Step.execution?]

/-- A run reports a task that repeats a key, and one whose execution ended in an error. -/
theorem error?_stepOf (ctx : TaskContext) (tasks : List Task) (t : Task) (i : Nat) :
    (stepOf ctx tasks t i).error? = errorOf ctx tasks t i := by
  unfold stepOf errorOf
  split
  · rfl
  · rw [Step.error?, TaskResult.completed, Task.key_execute]
    by_cases h : (t.execute ctx).result.phase = .error <;> simp [h]

/-- The errors of a run are those of its tasks, in their order. -/
theorem filterMap_error?_steps (ctx : TaskContext) (tasks : List Task) :
    (steps ctx [] tasks).filterMap Step.error? =
      tasks.zipIdx.filterMap fun (t, i) => errorOf ctx tasks t i := by
  rw [steps_eq, List.filterMap_map]
  exact List.filterMap_congr fun p _ => error?_stepOf ctx tasks p.1 p.2

/-! ### Keys of the results -/

/-- Positions increase along a list. -/
theorem pairwise_snd_zipIdx {α : Type} (xs : List α) (n : Nat) :
    (xs.zipIdx n).Pairwise fun p q => p.2 < q.2 := by
  rw [← List.pairwise_map, List.zipIdx_map_snd]
  exact List.pairwise_lt_range'

/-- Of two tasks that are carried out, the later one has another key, or a blank one. -/
theorem pairwise_kept (tasks : List Task) :
    (kept tasks).Pairwise fun a b => Text.allBlank b.key = true ∨ a.key ≠ b.key := by
  rw [kept, List.pairwise_map, List.pairwise_filter]
  refine (pairwise_snd_zipIdx tasks 0).imp_of_mem ?_
  rintro ⟨a, i⟩ ⟨b, j⟩ ha - hij - hb
  rw [or_iff_not_imp_left]
  intro hblank hkey
  -- The earlier task is among those that the later one would repeat.
  have hearlier : a ∈ tasks.take j := by
    rw [List.mk_mem_zipIdx_iff_getElem?] at ha
    exact List.mem_of_getElem? ((List.getElem?_take_of_lt hij).trans ha)
  have hrepeats : repeats tasks b j = true := by
    rw [repeats, Bool.and_eq_true, List.any_eq_true]
    exact ⟨by simpa using hblank, a, hearlier, beq_iff_eq.mpr hkey⟩
  simp [hrepeats] at hb

/-- The keys of the tasks that are carried out are distinct, apart from blank ones. -/
theorem nodup_keys_kept (tasks : List Task) :
    (((kept tasks).map (·.key)).filter fun k => !Text.allBlank k).Nodup := by
  rw [List.Nodup, List.pairwise_filter, List.pairwise_map]
  refine (pairwise_kept tasks).imp ?_
  rintro a b (hb | hab) - hblank
  · simp [hb] at hblank
  · exact hab

/-! ### Counts -/

/-- A step either counts as completed or reports an error. -/
theorem completed_add_errors (steps : List Step) :
    ((steps.filterMap Step.execution?).map (·.result)).countP (·.completed) +
      (steps.filterMap Step.error?).length = steps.length := by
  -- On the steps: each of them is a completed result or an error, and never both.
  induction steps with
  | nil => rfl
  | cons step rest ih =>
    cases step with
    | duplicate key =>
      simp only [List.filterMap_cons, Step.execution?, Step.error?, List.length_cons]
      omega
    | executed x =>
      by_cases h : x.result.completed = true
      · simp only [List.filterMap_cons, Step.execution?, Step.error?, List.map_cons,
          List.countP_cons, h, if_true, List.length_cons]
        omega
      · simp only [List.filterMap_cons, Step.execution?, Step.error?, List.map_cons,
          List.countP_cons, h, if_false, Bool.false_eq_true, List.length_cons]
        omega

section Summarize

variable (n : Nat) (results : List TaskResult) (errors : List String)

@[simp] theorem taskResults_summarize : (summarize n results errors).taskResults = results := by
  unfold summarize
  split <;> rfl

@[simp] theorem errors_summarize : (summarize n results errors).errors = errors := by
  unfold summarize
  split <;> rfl

/-- A run is complete when as many tasks are completed as it has, whether keys repeat or not. -/
@[simp] theorem completion_summarize :
    (summarize n results errors).completion =
      ⟨results.countP (·.completed) == n, results.countP (·.completed), n⟩ := by
  unfold summarize
  split <;> rfl

/-- A run goes well iff there is no error. -/
theorem phase_summarize :
    (summarize n results errors).phase = if errors = [] then .online else .error := by
  cases errors <;> rfl

end Summarize

/-! ### The aggregate -/

/-- A list of resources that is joined when deltas are. -/
structure Joins (part : Delta → List Resource) : Prop where
  empty : part Delta.empty = []
  append : ∀ d e, part (d.append e) = part d ++ part e

theorem joins_desired : Joins (·.desired) := ⟨rfl, fun _ _ => rfl⟩

theorem joins_explicitUpdates : Joins (·.explicitUpdates) := ⟨rfl, fun _ _ => rfl⟩

theorem joins_explicitDeletes : Joins (·.explicitDeletes) := ⟨rfl, fun _ _ => rfl⟩

/-- What is joined from two deltas at a time is joined from all of them. -/
theorem Joins.concat {part : Delta → List Resource} (h : Joins part) (ds : List Delta) :
    part (Delta.concat ds) = ds.flatMap part := by
  induction ds with
  | nil => exact h.empty
  | cons d rest ih =>
    show part (d.append (Delta.concat rest)) = part d ++ rest.flatMap part
    rw [h.append, ih]

/-- The delta of a run is that of the tasks which repeat no key. -/
theorem delta_ofSteps (ctx : TaskContext) (tasks : List Task) :
    (ofSteps (steps ctx [] tasks)).delta =
      Delta.concat ((kept tasks).map fun t => (t.execute ctx).delta) := by
  rw [ofSteps, filterMap_execution?_steps, List.map_map]
  rfl

/-- Each list of resources is joined from those of the tasks carried out, in their order. -/
theorem part_delta_ofSteps {part : Delta → List Resource} (h : Joins part) (ctx : TaskContext)
    (tasks : List Task) :
    part (ofSteps (steps ctx [] tasks)).delta =
      (kept tasks).flatMap fun t => part (t.execute ctx).delta := by
  rw [delta_ofSteps, h.concat, List.flatMap_map]

/-- The outcome of a run that carries out the tasks which repeat no key. -/
structure Aggregates (ctx : TaskContext) (tasks : List Task) (o : RunOutcome) : Prop where
  desired : o.delta.desired = (kept tasks).flatMap fun t => (t.execute ctx).delta.desired
  explicitUpdates :
    o.delta.explicitUpdates = (kept tasks).flatMap fun t => (t.execute ctx).delta.explicitUpdates
  explicitDeletes :
    o.delta.explicitDeletes = (kept tasks).flatMap fun t => (t.execute ctx).delta.explicitDeletes
  /-- One result for each task that is carried out, under its key. -/
  taskResults : o.status.taskResults = (kept tasks).map fun t => (t.execute ctx).result
  keys : ((o.status.taskResults.map (·.key)).filter fun k => !Text.allBlank k).Nodup
  /-- One error for each task that repeats a key and for each one that failed. -/
  errors : o.status.errors = tasks.zipIdx.filterMap fun (t, i) => errorOf ctx tasks t i
  /-- Every task counts as completed or is reported. -/
  counts : o.status.completion.observed + o.status.errors.length = tasks.length
  all_completed : o.status.completion.state = true ↔ o.status.errors = []
  online : o.status.phase = .online ↔ o.status.errors = []

/-- What becomes of the tasks of a run makes up the aggregate. -/
theorem aggregates_ofSteps (ctx : TaskContext) (tasks : List Task) :
    Aggregates ctx tasks (ofSteps (steps ctx [] tasks)) := by
  have hexecutions := filterMap_execution?_steps ctx tasks
  have hlength : (steps ctx [] tasks).length = tasks.length := by simp [steps_eq]
  -- Results and errors together are as many as tasks.
  have hcounts := completed_add_errors (steps ctx [] tasks)
  have hresults : ((steps ctx [] tasks).filterMap Step.execution?).map (·.result) =
      (kept tasks).map fun t => (t.execute ctx).result := by
    rw [hexecutions, List.map_map]
    rfl
  constructor
  case desired => exact part_delta_ofSteps joins_desired ctx tasks
  case explicitUpdates => exact part_delta_ofSteps joins_explicitUpdates ctx tasks
  case explicitDeletes => exact part_delta_ofSteps joins_explicitDeletes ctx tasks
  case taskResults => simp only [ofSteps, taskResults_summarize, hresults]
  case keys =>
    have hkeys : ((kept tasks).map fun t => (t.execute ctx).result).map (·.key) =
        (kept tasks).map (·.key) := by
      simp [List.map_map, Function.comp_def]
    simp only [ofSteps, taskResults_summarize, hresults, hkeys]
    exact nodup_keys_kept tasks
  case errors => simp only [ofSteps, errors_summarize, filterMap_error?_steps]
  case counts =>
    simp only [ofSteps, completion_summarize, errors_summarize]
    rw [hcounts, hlength]
  case all_completed =>
    simp only [ofSteps, completion_summarize, errors_summarize, beq_iff_eq]
    rw [← List.length_eq_zero_iff]
    omega
  case online =>
    simp only [ofSteps, errors_summarize, phase_summarize]
    split <;> simp_all

end Run

/-! ### The whole run -/

section Engine

variable {e : Engine} {r : RunRequest} {o : RunOutcome}

/-- What a valid run has. -/
theorem RunRequest.validate_eq_ok :
    r.validate = .ok () ↔
      r.run.uid ≠ "" ∧ r.run.name ≠ "" ∧ r.watch.uid ≠ "" ∧ r.spec.tasks ≠ [] := by
  unfold validate
  simp only [String.isEmpty_iff, List.isEmpty_iff]
  by_cases hrun : r.run.uid = ""
  · simp [hrun]
  by_cases hname : r.run.name = ""
  · simp [hrun, hname]
  by_cases hwatch : r.watch.uid = ""
  · simp [hrun, hname, hwatch]
  by_cases htasks : r.spec.tasks = []
  · simp [hrun, hname, hwatch, htasks]
  · simp [hrun, hname, hwatch, htasks]

/-- The guard of a run lets it run when there is none or when it succeeds. -/
theorem RunRequest.guardHolds_eq_ok_true :
    r.guardHolds = .ok true ↔
      ∀ a, r.spec.guard = some a → ∃ outcome, a.evaluate r.observed = .ok outcome ∧
        outcome.success = true := by
  unfold RunRequest.guardHolds
  cases r.spec.guard with
  | none => simp
  | some a => simp

/-- A valid run is carried out if its guard lets it run, and else it is stopped. -/
theorem Engine.run_eq_ok :
    e.run r = .ok o ↔
      r.validate = .ok () ∧
        ((r.guardHolds = .ok true ∧ Run.ofSteps (Run.steps (e.context r) [] r.spec.tasks) = o) ∨
          r.guardHolds = .ok false ∧ Run.stopped r.spec.tasks.length = o) := by
  simp only [Engine.run, bind_eq_ok]
  constructor
  · rintro ⟨⟨⟩, hvalid, holds, hguard, h⟩
    refine ⟨hvalid, ?_⟩
    -- The guard lets the tasks run, or the run is stopped.
    cases holds with
    | true => exact .inl ⟨hguard, pure_eq_ok.mp h⟩
    | false => exact .inr ⟨hguard, pure_eq_ok.mp h⟩
  · rintro ⟨hvalid, ⟨hguard, rfl⟩ | ⟨hguard, rfl⟩⟩
    · exact ⟨(), hvalid, true, hguard, rfl⟩
    · exact ⟨(), hvalid, false, hguard, rfl⟩

/-- The watch of a run that is carried out has a uid. -/
theorem Engine.watch_uid_ne (h : e.run r = .ok o) : r.watch.uid ≠ "" := by
  obtain ⟨hvalid, -⟩ := run_eq_ok.mp h
  obtain ⟨-, -, huid, -⟩ := RunRequest.validate_eq_ok.mp hvalid
  exact huid

/-- A valid run whose guard is absent or succeeds has an outcome, the aggregate of what
    its tasks return. -/
theorem Engine.run_aggregates (e : Engine) (r : RunRequest) (hvalid : r.validate = .ok ())
    (hguard : ∀ a, r.spec.guard = some a →
      ∃ outcome, a.evaluate r.observed = .ok outcome ∧ outcome.success = true) :
    ∃ o, e.run r = .ok o ∧ Run.Aggregates (e.context r) r.spec.tasks o := by
  refine ⟨_, ?_, Run.aggregates_ofSteps (e.context r) r.spec.tasks⟩
  exact run_eq_ok.mpr ⟨hvalid, .inl ⟨RunRequest.guardHolds_eq_ok_true.mpr hguard, rfl⟩⟩

end Engine

namespace RepeatedKey

/-- A task that asserts nothing. -/
def task (key : String) : Task :=
  ⟨key, none, none, some ⟨.any, []⟩, none, none, none⟩

/-- A run of five tasks, one of which repeats a key and two of which have a blank one. -/
def request : RunRequest where
  run := Owner.run "r-uid" "r"
  watch := Owner.watch "w-uid" "w"
  spec := ⟨[task "a", task " ", task "a", task "b", task " "], some ⟨.all, []⟩⟩
  observed := []

end RepeatedKey

open RepeatedKey in
/-- The run with a repeated key and blank ones. -/
theorem Engine.run_aggregates_repeatedKey :
    request.validate = .ok () ∧
      (∀ a, request.spec.guard = some a →
        ∃ outcome, a.evaluate request.observed = .ok outcome ∧ outcome.success = true) ∧
      ∃ o, (Engine.ofSettings Settings.default).run request = .ok o ∧
        Run.Aggregates ((Engine.ofSettings Settings.default).context request)
          request.spec.tasks o := by
  have hvalid : request.validate = .ok () := rfl
  have hguard : ∀ a, request.spec.guard = some a →
      ∃ outcome, a.evaluate request.observed = .ok outcome ∧ outcome.success = true := by
    rintro a ⟨⟩
    exact ⟨⟨true, 0⟩, rfl, rfl⟩
  exact ⟨hvalid, hguard, Engine.run_aggregates _ request hvalid hguard⟩

example : (Run.kept RepeatedKey.request.spec.tasks).map (·.key) = ["a", " ", "b", " "] := by
  decide

end Reconciler
