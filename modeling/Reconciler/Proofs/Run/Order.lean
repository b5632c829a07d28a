import Reconciler.Proofs.Run.Ownership
import Reconciler.Proofs.Task.Order

namespace Reconciler

/-!
# Runs over resources in another order

Guards, assertions and merges go through the observed resources in their order, and some of
them stop early.  No decision of a run depends on that order: a run over the same resources in
another order returns the same resources, and what it says of its tasks is the same apart from
the order of the entries of its reports and from the wording of failures.

* `RunStatus.Reorders`, `RunOutcome.Reorders` — what two such runs have in common;
* `Run.forall₂_steps` — what becomes of each task;
* `Engine.run_perm` — the same, for the whole run.
-/

/-! ### Outcomes in another order -/

/-- What a run reports of a task that ended with this error. -/
def TaskResult.errorText (r : TaskResult) : String :=
  "task " ++ r.key ++ ": " ++ r.message

/-- Two reported errors are the same, or they report one task, which failed in both runs. -/
def RunStatus.Rewords (results results' : List TaskResult) (x x' : String) : Prop :=
  x = x' ∨ ∃ p ∈ results.zip results', p.1.phase = .error ∧ p.2.phase = .error ∧
    x = p.1.errorText ∧ x' = p.2.errorText

/-- The statuses differ in the order of the entries of their reports at most, and in the
    wording of the failures of tasks that failed in both runs. -/
structure RunStatus.Reorders (s s' : RunStatus) : Prop where
  phase : s.phase = s'.phase
  reason : s.reason = s'.reason
  completion : s.completion = s'.completion
  taskResults : List.Forall₂ TaskResult.Reorders s.taskResults s'.taskResults
  errors : List.Forall₂ (RunStatus.Rewords s.taskResults s'.taskResults) s.errors s'.errors
  /-- The message repeats the errors, if there are any. -/
  message : s.message = s'.message ∨
    s.message = some (String.intercalate "; " s.errors) ∧
      s'.message = some (String.intercalate "; " s'.errors)

/-- The outcomes hold the same resources, and their statuses differ as little. -/
structure RunOutcome.Reorders (o o' : RunOutcome) : Prop where
  delta : o.delta.Reorders o'.delta
  status : o.status.Reorders o'.status

namespace Run

/-! ### Steps -/

/-- Both tasks repeat a key, or both are carried out, with results in another order. -/
inductive Step.Reorders : Step → Step → Prop
  | duplicate (key : String) : Reorders (.duplicate key) (.duplicate key)
  | executed {x x' : Execution} (h : x.Reorders x') : Reorders (.executed x) (.executed x')

/-- What becomes of each task.  Which keys have been seen is no matter of the resources. -/
theorem forall₂_steps (ctx : TaskContext) {observed' : List Resource}
    (h : ctx.observed.Perm observed') (seen : List String) (tasks : List Task) :
    List.Forall₂ Step.Reorders (steps ctx seen tasks) (steps (ctx.over observed') seen tasks) := by
  -- On the tasks; both runs have seen the same keys before each of them.
  induction tasks generalizing seen with
  | nil => exact .nil
  | cons t rest ih =>
    have hexecute : Step.Reorders (.executed (t.execute ctx))
        (.executed (t.execute (ctx.over observed'))) := .executed (t.execute_perm ctx h)
    rw [steps, steps]
    split
    · exact .cons hexecute (ih seen)
    · split
      · exact .cons (.duplicate t.key) (ih seen)
      · exact .cons hexecute (ih (t.key :: seen))

/-! ### The status -/

section Status

variable {ss ss' : List Step} {results results' : List TaskResult}

/-- The executions of both runs stand beside each other, since they leave out the same tasks. -/
theorem forall₂_executions (h : List.Forall₂ Step.Reorders ss ss') :
    List.Forall₂ Execution.Reorders (ss.filterMap Step.execution?)
      (ss'.filterMap Step.execution?) := by
  induction h with
  | nil => exact .nil
  | cons hstep _ ih =>
    cases hstep with
    | duplicate key => exact ih
    | executed hx => exact .cons hx ih

/-- Errors that report one task of some results report it among more of them. -/
theorem rewords_cons (r r' : TaskResult) {x x' : String}
    (h : RunStatus.Rewords results results' x x') :
    RunStatus.Rewords (r :: results) (r' :: results') x x' := by
  rcases h with rfl | ⟨p, hp, hrest⟩
  · exact .inl rfl
  · exact .inr ⟨p, List.mem_cons_of_mem _ hp, hrest⟩

/-- The errors of both runs stand beside each other, each with the result it comes from. -/
theorem forall₂_errors (h : List.Forall₂ Step.Reorders ss ss') :
    List.Forall₂
      (RunStatus.Rewords ((ss.filterMap Step.execution?).map (·.result))
        ((ss'.filterMap Step.execution?).map (·.result)))
      (ss.filterMap Step.error?) (ss'.filterMap Step.error?) := by
  induction h with
  | nil => exact .nil
  | cons hstep _ ih =>
    cases hstep with
    | duplicate key => exact .cons (.inl rfl) ih
    | @executed x x' hx =>
      -- Both tasks completed and nothing is reported, or both failed in their own words.
      have hcompleted := hx.result.completed_eq
      have hlater := ih.imp fun _ _ => rewords_cons x.result x'.result
      simp only [List.filterMap_cons, Step.execution?, Step.error?, List.map_cons, ← hcompleted]
      by_cases hdone : x.result.completed = true
      · rw [if_pos hdone, if_pos hdone]
        exact hlater
      · rw [if_neg hdone, if_neg hdone]
        have herror : x.result.phase = .error := by simpa [TaskResult.completed] using hdone
        have herror' : x'.result.phase = .error := hx.result.phase.symm.trans herror
        exact .cons (.inr ⟨(x.result, x'.result), List.mem_cons_self, herror, herror', rfl, rfl⟩)
          hlater

/-- Both runs complete the same tasks. -/
theorem countP_completed_eq (h : List.Forall₂ TaskResult.Reorders results results') :
    results.countP (·.completed) = results'.countP (·.completed) := by
  induction h with
  | nil => rfl
  | cons hr _ ih => rw [List.countP_cons, List.countP_cons, ih, hr.completed_eq]

/-- The status of as many tasks is made in the same way from results and errors that stand
    beside each other. -/
theorem summarize_reorders (tasks : Nat) {errors errors' : List String}
    (hresults : List.Forall₂ TaskResult.Reorders results results')
    (herrors : List.Forall₂ (RunStatus.Rewords results results') errors errors') :
    (summarize tasks results errors).Reorders (summarize tasks results' errors') := by
  have hcount := countP_completed_eq hresults
  have hlength := herrors.length_eq
  unfold summarize
  cases herrors with
  | nil => exact ⟨rfl, rfl, by simp [hcount], hresults, .nil, .inl (by simp [hcount])⟩
  | cons hx hxs =>
    exact ⟨rfl, by simp [hlength], by simp [hcount], hresults, .cons hx hxs, .inr ⟨rfl, rfl⟩⟩

end Status

/-- Steps in another order of the resources have one outcome in another order. -/
theorem ofSteps_reorders {ss ss' : List Step} (h : List.Forall₂ Step.Reorders ss ss') :
    (ofSteps ss).Reorders (ofSteps ss') := by
  have hexecutions := forall₂_executions h
  -- Executions in another order have deltas and results in another order.
  have hdeltas : List.Forall₂ Delta.Reorders ((ss.filterMap Step.execution?).map (·.delta))
      ((ss'.filterMap Step.execution?).map (·.delta)) := by
    rw [List.forall₂_map_left_iff, List.forall₂_map_right_iff]
    exact hexecutions.imp fun _ _ => Execution.Reorders.delta
  have hresults : List.Forall₂ TaskResult.Reorders ((ss.filterMap Step.execution?).map (·.result))
      ((ss'.filterMap Step.execution?).map (·.result)) := by
    rw [List.forall₂_map_left_iff, List.forall₂_map_right_iff]
    exact hexecutions.imp fun _ _ => Execution.Reorders.result
  have hstatus := summarize_reorders ss.length hresults (forall₂_errors h)
  rw [ofSteps, ofSteps, ← h.length_eq]
  exact ⟨Delta.reorders_concat hdeltas, hstatus⟩

/-- A run that its guard stops has nothing in it that could be in another order. -/
theorem stopped_reorders (tasks : Nat) : (stopped tasks).Reorders (stopped tasks) :=
  ⟨Delta.reorders_refl _, rfl, rfl, rfl, .nil, .nil, .inl rfl⟩

end Run

/-! ### The whole run -/

/-- The guard of a run decides the same in any order of the resources, or fails in the same way. -/
theorem RunRequest.guardHolds_perm (run watch : Owner) (spec : RunSpec)
    {observed observed' : List Resource} (h : observed.Perm observed') :
    (RunRequest.mk run watch spec observed').guardHolds =
      (RunRequest.mk run watch spec observed).guardHolds := by
  unfold RunRequest.guardHolds
  cases spec.guard with
  | none => rfl
  | some a =>
    dsimp only
    rw [a.evaluate_perm h]

/-- Two runs over the same resources, in different orders, both fail for the same reason, or
    both have an outcome.  Then every task ends in the same phase and is of the same kind, each
    list of resources is a permutation of the other one, and the statuses agree but for the
    order of the entries in reports and for the wording of the failures of tasks. -/
theorem Engine.run_perm (e : Engine) (run watch : Owner) (spec : RunSpec)
    {observed observed' : List Resource} (h : observed.Perm observed') :
    (∃ x, e.run ⟨run, watch, spec, observed⟩ = .error x ∧
        e.run ⟨run, watch, spec, observed'⟩ = .error x) ∨
      ∃ o o', e.run ⟨run, watch, spec, observed⟩ = .ok o ∧
        e.run ⟨run, watch, spec, observed'⟩ = .ok o' ∧ o.Reorders o' := by
  -- Whether the run begins at all is decided alike.
  have hguard := RunRequest.guardHolds_perm run watch spec h
  have hvalid : (RunRequest.mk run watch spec observed').validate =
      (RunRequest.mk run watch spec observed).validate := rfl
  unfold Engine.run
  rw [hguard, hvalid]
  cases (RunRequest.mk run watch spec observed).validate with
  | error x => exact .inl ⟨x, rfl, rfl⟩
  | ok _ =>
    cases (RunRequest.mk run watch spec observed).guardHolds with
    | error x => exact .inl ⟨x, rfl, rfl⟩
    | ok holds =>
      cases holds with
      | false => exact .inr ⟨_, _, rfl, rfl, Run.stopped_reorders _⟩
      | true =>
        have hsteps := Run.forall₂_steps (e.context ⟨run, watch, spec, observed⟩) h [] spec.tasks
        exact .inr ⟨_, _, rfl, rfl, Run.ofSteps_reorders hsteps⟩

namespace TwoPods

open MixedRun (pod labelPatch)

/-- A patch of the name of a pod. -/
def rename : Document :=
  .obj [("metadata", .obj [("name", .str "new")])]

/-- An update of all pods, and one that fails at the first of them. -/
def spec : RunSpec :=
  ⟨[⟨"label", none, none, none, some labelPatch, some (Selector.ofKind "Pod"), none⟩,
    ⟨"rename", none, none, none, some rename, some (Selector.ofKind "Pod"), none⟩], none⟩

/-- A run of both over pods with these names. -/
def request (names : List String) : RunRequest where
  run := Owner.run "r-uid" "r"
  watch := Owner.watch "w-uid" "w"
  spec := spec
  observed := names.map pod

/-- What the run returns. -/
def outcome (names : List String) : RunOutcome :=
  Run.ofSteps (Run.steps ((Engine.ofSettings Settings.default).context (request names)) []
    spec.tasks)

/-- The run carries out the request, whatever the order of the pods in it. -/
theorem run_request (names : List String) :
    (Engine.ofSettings Settings.default).run (request names) = .ok (outcome names) := by
  have hvalid : (request names).validate = .ok () := rfl
  exact Engine.run_eq_ok.mpr ⟨hvalid, .inl ⟨rfl, rfl⟩⟩

end TwoPods

open TwoPods in
/-- Two pods in either order: the updated ones come in that order, and the failure names the
    first one. -/
theorem Engine.run_perm_twoPods :
    (["api", "web"].map MixedRun.pod).Perm (["web", "api"].map MixedRun.pod) ∧
      (outcome ["api", "web"]).Reorders (outcome ["web", "api"]) ∧
      (outcome ["api", "web"]).delta.explicitUpdates.map (·.name) = ["api", "web"] ∧
      (outcome ["web", "api"]).delta.explicitUpdates.map (·.name) = ["web", "api"] ∧
      (outcome ["api", "web"]).status.errors =
        ["task rename: merge changed identity of v1/Pod api to v1/Pod new"] ∧
      (outcome ["web", "api"]).status.errors =
        ["task rename: merge changed identity of v1/Pod web to v1/Pod new"] := by
  have hperm : (["api", "web"].map MixedRun.pod).Perm (["web", "api"].map MixedRun.pod) :=
    .swap _ _ _
  refine ⟨hperm, ?_, ?_⟩
  · rcases Engine.run_perm (Engine.ofSettings Settings.default) (Owner.run "r-uid" "r")
      (Owner.watch "w-uid" "w") spec hperm with ⟨x, hx, -⟩ | ⟨o, o', ho, ho', h⟩
    · exact absurd ((run_request ["api", "web"]).symm.trans hx) (by simp)
    · rw [ok_unique (run_request ["api", "web"]) ho, ok_unique (run_request ["web", "api"]) ho']
      exact h
  · decide +kernel

end Reconciler
