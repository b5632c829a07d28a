import Mathlib.Data.List.Find
import Mathlib.Data.List.Nodup
import Reconciler.Proofs.Run.Ownership

namespace Reconciler

/-!
# Tasks beside other tasks

The tasks of a run share the observed resources, the keys seen so far and the outcome that
they add to.  When their keys are distinct, each of them is carried out as it would be alone.

* `Run.steps_of_nodup` — every task is carried out, whatever its neighbours are;
* `Run.task?_ofTasks`, `Run.blocks` — the result of a task, and what it contributes;
* `Run.status_ofSteps_perm` — the phase and the completion of a run in another order;
* `Engine.run_isolates` — one more task, or another order of the tasks.
-/

/-- The same run with other tasks. -/
def RunRequest.withTasks (r : RunRequest) (tasks : List Task) : RunRequest :=
  { r with spec := { r.spec with tasks } }

namespace Run

variable {ctx : TaskContext} {tasks tasks' : List Task}

/-! ### Steps -/

/-- Every task is carried out when no key has been seen and none occurs twice. -/
theorem steps_of_fresh (ctx : TaskContext) {seen : List String}
    (hfresh : ∀ t ∈ tasks, t.key ∉ seen) (hkeys : (tasks.map (·.key)).Nodup) :
    steps ctx seen tasks = tasks.map fun t => .executed (t.execute ctx) := by
  -- On the remaining tasks; none of their keys is among those seen so far.
  induction tasks generalizing seen with
  | nil => rfl
  | cons t rest ih =>
    rw [List.map_cons, List.nodup_cons] at hkeys
    obtain ⟨hnew, hkeys⟩ := hkeys
    obtain ⟨ht, hrest⟩ := List.forall_mem_cons.mp hfresh
    have hrest' : ∀ t' ∈ rest, t'.key ∉ t.key :: seen := by
      intro t' ht'
      have hne : t'.key ≠ t.key := fun heq => hnew (heq ▸ List.mem_map_of_mem ht')
      exact List.not_mem_cons_of_ne_of_not_mem hne (hrest t' ht')
    have hunseen : seen.contains t.key = false := by simpa using ht
    rw [steps, hunseen, ih hrest hkeys, ih hrest' hkeys]
    split <;> rfl

/-- Where no two tasks have one key, all of them are carried out. -/
theorem steps_of_nodup (ctx : TaskContext) (hkeys : (tasks.map (·.key)).Nodup) :
    steps ctx [] tasks = tasks.map fun t => .executed (t.execute ctx) :=
  steps_of_fresh ctx (fun _ _ => List.not_mem_nil) hkeys

/-! ### Results -/

/-- The outcome of a run that carries out all of these tasks. -/
def ofTasks (ctx : TaskContext) (tasks : List Task) : RunOutcome :=
  ofSteps (tasks.map fun t => .executed (t.execute ctx))

/-- Every task that is carried out has an execution. -/
theorem executions_ofTasks (ctx : TaskContext) (tasks : List Task) :
    (tasks.map fun t => Step.executed (t.execute ctx)).filterMap Step.execution? =
      tasks.map (·.execute ctx) := by
  rw [List.filterMap_map]
  exact congrFun List.filterMap_eq_map tasks

/-- The result of a task is found by its key. -/
theorem task?_ofTasks (ctx : TaskContext) (tasks : List Task) (k : String) :
    (ofTasks ctx tasks).status.task? k =
      (tasks.find? (·.key == k)).map fun t => (t.execute ctx).result := by
  simp only [ofTasks, ofSteps, RunStatus.task?, taskResults_summarize, executions_ofTasks,
    List.find?_map, Option.map_map]
  simp only [Function.comp_def, Task.key_execute]

/-- One of several tasks with distinct keys is found by its own. -/
theorem find?_key_of_mem (hkeys : (tasks.map (·.key)).Nodup) {t : Task} (ht : t ∈ tasks) :
    tasks.find? (·.key == t.key) = some t := by
  have hsome : (tasks.find? (·.key == t.key)).isSome = true :=
    List.find?_isSome.mpr ⟨t, ht, beq_self_eq_true _⟩
  obtain ⟨t', ht'⟩ := Option.isSome_iff_exists.mp hsome
  have hkey : t'.key = t.key := by simpa using List.find?_some ht'
  rw [ht', List.inj_on_of_nodup_map hkeys (List.mem_of_find?_eq_some ht') ht hkey]

/-- A key finds the same task in any order of the tasks, if no two of them have one key. -/
theorem find?_key_perm (h : tasks.Perm tasks') (hkeys : (tasks.map (·.key)).Nodup) (k : String) :
    tasks.find? (·.key == k) = tasks'.find? (·.key == k) := by
  refine List.find?_eq_find?_of_perm h ?_
  rintro t ⟨ht, hk⟩ t' ⟨ht', hk'⟩
  have hkey : t.key = t'.key := (beq_iff_eq.mp hk).trans (beq_iff_eq.mp hk').symm
  exact List.inj_on_of_nodup_map hkeys ht ht' hkey

/-- One more task hides no other. -/
theorem find?_key_insert (before after : List Task) (t : Task) {k : String} (h : k ≠ t.key) :
    (before ++ t :: after).find? (·.key == k) = (before ++ after).find? (·.key == k) := by
  have hother : (t.key == k) = false := beq_eq_false_iff_ne.mpr h.symm
  rw [List.find?_append, List.find?_cons, hother, List.find?_append]

/-! ### Contributions -/

/-- What each of the tasks contributes. -/
def blocks (ctx : TaskContext) (tasks : List Task) : List Delta :=
  tasks.map fun t => (t.execute ctx).delta

/-- The delta of a run is the blocks of its tasks, one after the other. -/
theorem delta_ofTasks (ctx : TaskContext) (tasks : List Task) :
    (ofTasks ctx tasks).delta = Delta.concat (blocks ctx tasks) := by
  simp only [ofTasks, ofSteps, executions_ofTasks, List.map_map]
  rfl

/-! ### The status -/

/-- Whether a run is complete, and without errors, is no matter of the order of its steps. -/
theorem status_ofSteps_perm {ss ss' : List Step} (h : ss.Perm ss') :
    (ofSteps ss).status.phase = (ofSteps ss').status.phase ∧
      (ofSteps ss).status.completion = (ofSteps ss').status.completion := by
  have herrors : (ss.filterMap Step.error?).Perm (ss'.filterMap Step.error?) := h.filterMap _
  have hresults : ((ss.filterMap Step.execution?).map (·.result)).Perm
      ((ss'.filterMap Step.execution?).map (·.result)) := (h.filterMap _).map _
  constructor
  · simp only [ofSteps, phase_summarize, ← List.isEmpty_iff, herrors.isEmpty_eq]
  · simp only [ofSteps, completion_summarize, hresults.countP_eq, h.length_eq]

end Run

/-! ### The whole run -/

section Engine

variable {e : Engine} {r : RunRequest} {tasks : List Task}

/-- A run whose guard lets it run does so with other tasks, too, if there are any. -/
theorem Engine.run_withTasks {o : RunOutcome} (hguard : r.guardHolds = .ok true)
    (h : e.run r = .ok o) (htasks : tasks ≠ []) (hkeys : (tasks.map (·.key)).Nodup) :
    e.run (r.withTasks tasks) = .ok (Run.ofTasks (e.context r) tasks) := by
  obtain ⟨hvalid, -⟩ := run_eq_ok.mp h
  obtain ⟨hrun, hname, hwatch, -⟩ := RunRequest.validate_eq_ok.mp hvalid
  have hvalid' : (r.withTasks tasks).validate = .ok () :=
    RunRequest.validate_eq_ok.mpr ⟨hrun, hname, hwatch, htasks⟩
  refine run_eq_ok.mpr ⟨hvalid', .inl ⟨hguard, ?_⟩⟩
  exact congrArg Run.ofSteps (Run.steps_of_nodup (e.context r) hkeys)

/-- In a run of tasks with distinct keys that its guard lets run, every task has a result and
    contributes a block of resources, which depend on this task alone.  One more task at any
    place, with another key, leaves the results of the others as they are and adds its block
    between theirs.  Another order of the tasks reorders the blocks, and changes no result,
    nor the phase or the completion of the run. -/
theorem Engine.run_isolates (e : Engine) (r : RunRequest) (o : RunOutcome)
    (hkeys : (r.spec.tasks.map (·.key)).Nodup) (hguard : r.guardHolds = .ok true)
    (h : e.run r = .ok o) :
    (∀ t ∈ r.spec.tasks, o.status.task? t.key = some (t.execute (e.context r)).result) ∧
      o.delta = Delta.concat (Run.blocks (e.context r) r.spec.tasks) ∧
      (∀ before t after, r.spec.tasks = before ++ after → t.key ∉ r.spec.tasks.map (·.key) →
        ∃ o', e.run (r.withTasks (before ++ t :: after)) = .ok o' ∧
          (∀ k, k ≠ t.key → o'.status.task? k = o.status.task? k) ∧
          o'.delta = Delta.concat (Run.blocks (e.context r) before ++
            (t.execute (e.context r)).delta :: Run.blocks (e.context r) after)) ∧
      ∀ tasks', r.spec.tasks.Perm tasks' →
        ∃ o', e.run (r.withTasks tasks') = .ok o' ∧
          (∀ k, o'.status.task? k = o.status.task? k) ∧
          o'.status.phase = o.status.phase ∧ o'.status.completion = o.status.completion ∧
          o'.delta = Delta.concat (Run.blocks (e.context r) tasks') := by
  obtain ⟨hvalid, -⟩ := run_eq_ok.mp h
  obtain ⟨-, -, -, htasks⟩ := RunRequest.validate_eq_ok.mp hvalid
  -- With distinct keys every task is carried out, and the outcome is that of all of them.
  have ho : Run.ofTasks (e.context r) r.spec.tasks = o :=
    ok_unique (run_withTasks hguard h htasks hkeys) h
  subst ho
  refine ⟨?_, Run.delta_ofTasks _ _, ?_, ?_⟩
  · intro t ht
    rw [Run.task?_ofTasks, Run.find?_key_of_mem hkeys ht, Option.map_some]
  · intro before t after hsplit hnew
    -- The keys are still distinct with the new task among them.
    have hmiddle : (before ++ t :: after).Perm (t :: r.spec.tasks) := by
      rw [hsplit]
      exact List.perm_middle
    have hkeys' : ((before ++ t :: after).map (·.key)).Nodup :=
      (hmiddle.map _).nodup_iff.mpr (List.nodup_cons.mpr ⟨hnew, hkeys⟩)
    refine ⟨_, run_withTasks hguard h (by simp) hkeys', fun k hk => ?_, ?_⟩
    · rw [Run.task?_ofTasks, Run.task?_ofTasks, Run.find?_key_insert before after t hk, hsplit]
    · rw [Run.delta_ofTasks, Run.blocks, List.map_append, List.map_cons]
      rfl
  · intro tasks' hperm
    have hkeys' : (tasks'.map (·.key)).Nodup := (hperm.map _).nodup_iff.mp hkeys
    have htasks' : tasks' ≠ [] := fun hnil => htasks (hnil ▸ hperm).eq_nil
    obtain ⟨hphase, hcompletion⟩ := Run.status_ofSteps_perm
      (hperm.map fun t => Run.Step.executed (t.execute (e.context r)))
    refine ⟨_, run_withTasks hguard h htasks' hkeys', fun k => ?_, hphase.symm,
      hcompletion.symm, Run.delta_ofTasks _ _⟩
    rw [Run.task?_ofTasks, Run.task?_ofTasks, Run.find?_key_perm hperm hkeys]

end Engine

/-- A task that says nothing to do. -/
def MixedRun.idle : Task :=
  ⟨"idle", none, none, none, none, none, none⟩

open MixedRun in
/-- A task that fails among an update, a deletion and a creation, and these three backwards. -/
theorem Engine.run_isolates_mixed :
    (request.spec.tasks.map (·.key)).Nodup ∧ request.guardHolds = .ok true ∧
      (Engine.ofSettings Settings.default).run request = .ok outcome ∧
      (∃ o, (Engine.ofSettings Settings.default).run (request.withTasks
          (request.spec.tasks.take 1 ++ idle :: request.spec.tasks.drop 1)) = .ok o ∧
        ∀ k, k ≠ "idle" → o.status.task? k = outcome.status.task? k) ∧
      ∃ o, (Engine.ofSettings Settings.default).run
          (request.withTasks request.spec.tasks.reverse) = .ok o ∧
        (∀ k, o.status.task? k = outcome.status.task? k) ∧
        o.delta.desired.map (·.name) = ["settings", "mine"] := by
  have hkeys : (request.spec.tasks.map (·.key)).Nodup := by decide
  have hguard : request.guardHolds = .ok true := rfl
  obtain ⟨-, -, hinsert, hreorder⟩ := Engine.run_isolates _ request outcome hkeys hguard run_request
  refine ⟨hkeys, hguard, run_request, ?_, ?_⟩
  · obtain ⟨o, ho, hothers, -⟩ := hinsert (request.spec.tasks.take 1) idle
      (request.spec.tasks.drop 1) rfl (by decide)
    exact ⟨o, ho, hothers⟩
  · obtain ⟨o, ho, hresults, -, -, hdelta⟩ :=
      hreorder request.spec.tasks.reverse (List.reverse_perm _).symm
    refine ⟨o, ho, hresults, ?_⟩
    rw [hdelta]
    decide +kernel

end Reconciler
