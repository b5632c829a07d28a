import Reconciler.Proofs.Plan.Failure
import Reconciler.Proofs.Selector.Verdict
import Reconciler.Proofs.Task.Execution
import Reconciler.Proofs.Task.Validation

namespace Reconciler

/-!
# How a valid task fails

A task is validated before it is carried out, and each step of the work checks again what it
needs.  After the validation none of these checks can fail.  What is left is what the task cannot
know by itself: that there are resources, that field paths read, and that templates and merged
documents are resources.

* `SelectError.Static`, `TaskError.Static` — the faults that a validation rules out;
* `Task.Failure` — the failures that are left, each with what causes it;
* `Task.attempt_eq_error`, `Task.failure_of_perform` — the failures step by step;
* `Task.failures_of_validate` — a valid task fails in these ways only.
-/

/-! ### Faults that a task has by itself -/

/-- A fault that a selector or a condition has whatever the resources are. -/
inductive SelectError.Static : SelectError → Prop
  | emptySelector : Static .emptySelector
  | missingCount (operator : CountOperator) : Static (.missingCount operator)
  | negativeCount (n : Int64) : Static (.negativeCount n)

/-- A fault of the work of a task that the task has by itself: it has no work or two, a condition
    or the target has a static fault, or there is no replica to be created. -/
inductive TaskError.Static : TaskError → Prop
  | assertXorApply : Static .assertXorApply
  | guard {error : SelectError} (h : error.Static) : Static (.guard error)
  | assert {error : SelectError} (h : error.Static) : Static (.assert error)
  | target {error : SelectError} (h : error.Static) : Static (.plan (.select error))
  | zeroReplicas : Static (.plan .zeroReplicas)

variable {a : Assertion} {rs : List Resource}

/-- That there are no candidates, or that a path does not read, is nothing that a validation looks
    for. -/
theorem Assertion.Failure.not_static {e : SelectError} (h : a.Failure rs e) : ¬ e.Static := by
  cases h with
  | noCandidates => exact nofun
  | field => exact nofun

theorem CreateFault.not_static {template : Document} {e : PlanError}
    (h : CreateFault template e) : ¬ (TaskError.plan e).Static := by
  cases h with
  | missingName => exact nofun
  | template h =>
    cases h with
    | empty => exact nofun
    | unreadable => exact nofun
    | missingApiVersion => exact nofun
    | missingKind => exact nofun

theorem MergeFault.not_static {merger : Merger} {patch : Document} {s : Resource} {e : PlanError}
    (h : MergeFault merger patch s e) : ¬ (TaskError.plan e).Static := by
  cases h with
  | merge => exact nofun
  | unreadable => exact nofun
  | identity => exact nofun

namespace Task

variable {t : Task} {ctx : TaskContext} {replicas : Option UInt32} {e : TaskError}

/-! ### The failures that are left -/

/-- The failures of a valid task: its guard or its assertion has no resources to ask about or a
    path that does not read, its target has such a path, its template cannot be used, or its patch
    does not merge into a resource. -/
inductive Failure (t : Task) (ctx : TaskContext) : TaskError → Prop
  | guard {a : Assertion} {error : SelectError} (hguard : t.guard = some a)
      (h : a.Failure ctx.observed error) : Failure t ctx (.guard error)
  | assert {a : Assertion} {error : SelectError} (hassert : t.assert = some a)
      (h : a.Failure ctx.observed error) : Failure t ctx (.assert error)
  | target {s : Selector} {path : String} {fault : PathError} (htarget : t.target = some s)
      (h : s.Unreadable path fault) : Failure t ctx (.plan (.select (.field path fault)))
  | template {d : Document} {error : PlanError} (happly : t.apply = some d)
      (htarget : t.target = none) (h : CreateFault d error) : Failure t ctx (.plan error)
  | merge {patch : Document} {target : Selector} {s : Resource} {error : PlanError}
      (happly : t.apply = some patch) (htarget : t.target = some target) (hs : s ∈ ctx.observed)
      (h : MergeFault ctx.merger patch s error) : Failure t ctx (.plan error)

/-- None of the failures that are left is static. -/
theorem Failure.not_static (h : t.Failure ctx e) : ¬ e.Static := by
  cases h with
  | guard _ h =>
    rintro ⟨⟩
    exact h.not_static ‹_›
  | assert _ h =>
    rintro ⟨⟩
    exact h.not_static ‹_›
  | target _ _ =>
    -- A path that does not read is no static fault of a target.
    rintro (_ | _ | _ | ⟨⟨⟩⟩)
  | template _ _ h => exact h.not_static
  | merge _ _ _ h => exact h.not_static

/-! ### Step by step -/

/-- A guard fails iff its assertion does, and the error says so. -/
theorem guardHolds_eq_error :
    t.guardHolds ctx = .error e ↔
      ∃ a error, t.guard = some a ∧ a.evaluate ctx.observed = .error error ∧ .guard error = e := by
  unfold guardHolds
  cases t.guard with
  | none => simp
  | some a =>
    cases h : a.evaluate ctx.observed with
    | error error => simp [h, Except.mapError, Except.map]
    | ok outcome => simp [h, Except.mapError, Except.map]

/-- An assertion fails with the error of its evaluation. -/
theorem performAssert_eq_error {a : Assertion} :
    t.performAssert ctx a = .error e ↔
      ∃ error, a.evaluate ctx.observed = .error error ∧ .assert error = e := by
  rw [performAssert, bind_eq_error_of_ok, mapError_eq_error]
  exact fun _ => ⟨_, rfl⟩

theorem performUpdate_eq_error {patch : Document} {target : Selector} :
    t.performUpdate ctx patch target = .error e ↔
      ∃ error, planUpdate ctx.settings ctx.merger ctx.watch patch target ctx.observed =
        .error error ∧ .plan error = e := by
  rw [performUpdate, bind_eq_error_of_ok, mapError_eq_error]
  exact fun _ => ⟨_, rfl⟩

theorem performTemplate_eq_error {template : Document} :
    t.performTemplate ctx template replicas = .error e ↔
      ∃ error, planTemplate ctx.settings (t.provenance ctx) template replicas ctx.observed =
        .error error ∧ .plan error = e := by
  rw [performTemplate, bind_eq_error_of_ok, mapError_eq_error]
  · rfl
  · intro plan
    cases plan with
    | created plan => exact ⟨_, rfl⟩
    | deleted plan => exact ⟨_, rfl⟩

/-- An attempt fails in the validation, in the guard or in the work. -/
theorem attempt_eq_error :
    t.attempt ctx = .error e ↔
      t.validate ctx.settings = .error e ∨
        ∃ replicas, t.validate ctx.settings = .ok replicas ∧
          (t.guardHolds ctx = .error e ∨
            t.guardHolds ctx = .ok true ∧ t.perform ctx replicas = .error e) := by
  simp only [attempt, bind_eq_error]
  refine or_congr_right (exists_congr fun replicas => and_congr_right fun _ => ?_)
  refine or_congr_right ?_
  constructor
  · rintro ⟨holds, hguard, h⟩
    cases holds with
    | true => exact ⟨hguard, h⟩
    | false => cases h
  · rintro ⟨hguard, h⟩
    exact ⟨true, hguard, h⟩

/-- The work of a valid task fails for its assertion, for its target, for a template or for a
    merge. -/
theorem failure_of_perform (hshape : t.WellShaped) (hasked : t.WellAsked)
    (h : t.perform ctx replicas = .error e) : t.Failure ctx e := by
  unfold perform at h
  split at h
  · next a hassert =>
    obtain ⟨error, herror, rfl⟩ := performAssert_eq_error.mp h
    exact .assert hassert (Assertion.failure_of_evaluate (hasked.assert a hassert) herror)
  · next patch target hassert happly htarget =>
    obtain ⟨error, herror, rfl⟩ := performUpdate_eq_error.mp h
    rcases planUpdate_eq_error.mp herror with
      ⟨x, hx, rfl⟩ | ⟨selector, before, s, after, -, hsplit, -, hfault⟩
    · obtain ⟨path, fault, hbad, rfl⟩ :=
        Selector.unreadable_of_compile (hasked.target target htarget) hx
      exact .target htarget hbad
    · have hs : s ∈ ctx.observed.filter selector.accepts := by simp [hsplit]
      exact .merge happly htarget (List.mem_of_mem_filter hs) hfault
  · next template hassert happly htarget =>
    obtain ⟨error, herror, rfl⟩ := performTemplate_eq_error.mp h
    rcases planTemplate_eq_error.mp herror with ⟨-, hfault⟩ | ⟨-, hfault⟩
    · exact .template happly htarget (.template hfault)
    · exact .template happly htarget hfault
  · next hassert happly =>
    -- A valid task has work to do.
    have hwork := hshape.work
    rw [hassert, happly] at hwork
    exact absurd rfl hwork

/-- A valid task fails in one of the ways that are left, be it in its guard or in its work. -/
theorem failure_of_attempt (hvalid : t.validate ctx.settings = .ok replicas)
    (h : t.attempt ctx = .error e) : t.Failure ctx e := by
  obtain ⟨hshape, hasked, -⟩ := validate_eq_ok.mp hvalid
  rcases attempt_eq_error.mp h with h | ⟨replicas, -, h | ⟨-, h⟩⟩
  · rw [hvalid] at h
    cases h
  · obtain ⟨a, error, hguard, herror, rfl⟩ := guardHolds_eq_error.mp h
    exact .guard hguard (Assertion.failure_of_evaluate (hasked.guard a hguard) herror)
  · exact failure_of_perform hshape hasked h

/-- A valid task that ends in an error has failed for a reason that it could not know by itself,
    and for no static fault.  The conditions of its guard and of its assertion have a count of
    their own wherever they compare with one, and what would stand in for a missing count is no
    matter to their answers. -/
theorem failures_of_validate (hvalid : t.validate ctx.settings = .ok replicas) :
    (∀ error, t.attempt ctx = .error error → t.Failure ctx error ∧ ¬ error.Static) ∧
      ((t.execute ctx).result.phase = .error →
        ∃ error, t.attempt ctx = .error error ∧ t.execute ctx = t.failed error) ∧
      ∀ a, t.guard = some a ∨ t.assert = some a → ∀ c ∈ a.conditions,
        (c.operator.needsCount = true → ∃ n, c.count = some n ∧ 0 ≤ n) ∧
          ∀ fallback n, (c.fill fallback).holds n = c.holds n := by
  obtain ⟨-, hasked, -⟩ := validate_eq_ok.mp hvalid
  refine ⟨fun error h => ?_, fun hphase => ?_, fun a ha c hc => ?_⟩
  · have hfailure := failure_of_attempt hvalid h
    exact ⟨hfailure, hfailure.not_static⟩
  · exact (executes_execute t ctx).eq_failed hphase
  · -- The validation has gone through the conditions of guard and assertion.
    have hcvalid : c.Valid := by
      rcases ha with hguard | hassert
      · exact hasked.guard a hguard c hc
      · exact hasked.assert a hassert c hc
    refine ⟨fun hneeds => ?_, hcvalid.holds_fill⟩
    obtain ⟨n, hn⟩ := hcvalid.count hneeds
    exact ⟨n, hn, hcvalid.nonneg n hn⟩

namespace BrokenTarget

/-- Asks for at least one pod. -/
def somePod : Condition := ⟨Selector.ofKind "Pod", .atLeast, some 1⟩

/-- A selector with a path that does not read. -/
def target : Selector := ⟨[SelectorTerm.empty.withField "spec..x" "1"]⟩

/-- The failure of the path. -/
def fault : SelectError := .field "spec..x" (.invalid "spec..x" .emptySegment)

/-- A number of replicas. -/
def patch : Document := .obj [("spec", .obj [("replicas", .nat 2)])]

/-- A task with a guard that counts, and with that target. -/
def task : Task where
  key := "scale"
  desc := none
  guard := some ⟨.all, [somePod]⟩
  assert := none
  apply := some patch
  target := some target
  replicas := none

/-- One pod. -/
def context : TaskContext where
  observed := [⟨"v1", "Pod", { Metadata.empty with name := some "web" }, []⟩]
  watch := Owner.watch "w-uid" "w"
  run := Owner.run "r-uid" "r"
  merger := threeWay
  settings := Settings.default

theorem attempt_task : task.attempt context = .error (.plan (.select fault)) := by
  have hvalid : task.validate context.settings = .ok none := by decide +kernel
  have hguard : task.guardHolds context = .ok true := by decide +kernel
  have hcompile : target.compile = .error fault := by decide +kernel
  have hperform : task.performUpdate context patch target = .error (.plan (.select fault)) :=
    performUpdate_eq_error.mpr ⟨_, planUpdate_eq_error.mpr (.inl ⟨_, hcompile, rfl⟩), rfl⟩
  exact attempt_eq_error.mpr (.inr ⟨none, hvalid, .inr ⟨hguard, hperform⟩⟩)

end BrokenTarget

open BrokenTarget in
/-- The guard of the task holds by its own count, and the task fails for the path of its
    target. -/
theorem failures_of_validate_brokenTarget :
    task.validate context.settings = .ok none ∧
      task.attempt context = .error (.plan (.select fault)) ∧
      task.Failure context (.plan (.select fault)) ∧
      ¬ (TaskError.plan (.select fault)).Static ∧
      ∀ fallback n, (somePod.fill fallback).holds n = somePod.holds n := by
  have hvalid : task.validate context.settings = .ok none := by decide +kernel
  obtain ⟨hfailures, -, hcounts⟩ := failures_of_validate hvalid
  obtain ⟨hfailure, hstatic⟩ := hfailures _ attempt_task
  obtain ⟨-, hfill⟩ := hcounts ⟨.all, [somePod]⟩ (.inl rfl) somePod List.mem_cons_self
  exact ⟨hvalid, attempt_task, hfailure, hstatic, hfill⟩

end Task

end Reconciler
