import Reconciler.Host.Reconcile
import Reconciler.Proofs.Run.Aggregation
import Reconciler.Proofs.Selector.Verdict

namespace Reconciler

/-!
# The way a request goes

A request fails as a whole, or the guard of its run does not let it run, or the run is carried
out.  Which of these it is can be read off the watched resource and the attached ones.

* `ReconcileRequest.Specifies`, `Complete`, `Lacks`, `GuardAnswers` — what the watched resource
  asks for, what it needs for that, and what the guard of the run says;
* `ReconcileRequest.taskContext` — what the tasks of the run share;
* `ReconcileRequest.Fails`, `Skips`, `Runs` — the three ways, of which a request goes one;
* `ReconcileRequest.plan_of_fails`, `plan_of_complete` — what is planned for each of them.
-/

namespace ReconcileRequest

/-! ### What a request asks for -/

/-- The watched resource asks for the run with this spec.  Without a `spec` of its own it asks for
    a run without tasks and without a guard. -/
inductive Specifies (r : ReconcileRequest) : RunSpec → Prop
  | absent (h : Entries.get? "spec" r.watch.data = none) : Specifies r ⟨[], none⟩
  | present {d : Document} {spec : RunSpec} (h : Entries.get? "spec" r.watch.data = some d)
      (hd : RunSpec.decode d = .ok spec) : Specifies r spec

/-- A run needs tasks, and the watched resource a uid and a name. -/
structure Complete (r : ReconcileRequest) (spec : RunSpec) : Prop where
  uid : ∃ uid, r.watch.metadata.uid = some uid ∧ uid ≠ ""
  name : ∃ name, r.watch.metadata.name = some name ∧ name ≠ ""
  tasks : spec.tasks ≠ []

/-- This is missing from the run, and what is asked for before it is there. -/
inductive Lacks (r : ReconcileRequest) (spec : RunSpec) : RunFault → Prop
  | uid (h : r.watch.metadata.uid.getD "" = "") : Lacks r spec .runUid
  | name (huid : r.watch.metadata.uid.getD "" ≠ "") (h : r.watch.metadata.name.getD "" = "") :
      Lacks r spec .runName
  | tasks (huid : r.watch.metadata.uid.getD "" ≠ "") (hname : r.watch.metadata.name.getD "" ≠ "")
      (h : spec.tasks = []) : Lacks r spec .tasks

/-- What the guard of a run says over the attached resources.  Without a guard the run may go. -/
inductive GuardAnswers (r : ReconcileRequest) (spec : RunSpec) : Except SelectError Bool → Prop
  | unguarded (h : spec.guard = none) : GuardAnswers r spec (.ok true)
  | answered {a : Assertion} {o : AssertionOutcome} (h : spec.guard = some a)
      (ha : a.Verdict r.attachments.values (.ok o)) : GuardAnswers r spec (.ok o.success)
  | unanswered {a : Assertion} {error : SelectError} (h : spec.guard = some a)
      (ha : a.Verdict r.attachments.values (.error error)) : GuardAnswers r spec (.error error)

/-- What the tasks of the run share: the attached resources, and the watched resource as the
    watch and as the run. -/
def taskContext (r : ReconcileRequest) (e : Engine) : TaskContext where
  observed := r.attachments.values
  watch := ⟨.watch, r.watch.metadata.uid.getD "", r.watch.metadata.name.getD ""⟩
  run := ⟨.run, r.watch.metadata.uid.getD "", r.watch.metadata.name.getD ""⟩
  merger := e.merger
  settings := e.settings

section Asked

variable {r : ReconcileRequest} {spec : RunSpec}

/-- The spec of a request is what its watched resource asks for. -/
theorem runSpec_eq_ok : r.runSpec = .ok spec ↔ r.Specifies spec := by
  constructor
  · intro h
    rw [runSpec, Resource.spec?] at h
    split at h
    · next d hd => exact .present hd (mapError_eq_ok.mp h)
    · next hnone =>
      obtain rfl := Except.ok.inj h
      exact .absent hnone
  · rintro (hnone | ⟨hd, hspec⟩)
    · rw [runSpec, Resource.spec?, hnone]
      rfl
    · rw [runSpec, Resource.spec?, hd]
      exact mapError_eq_ok.mpr hspec

/-- Only a `spec` that is there and does not read stands in the way of one. -/
theorem runSpec_eq_error {x : ReconcileError} :
    r.runSpec = .error x ↔
      ∃ d error, Entries.get? "spec" r.watch.data = some d ∧ RunSpec.decode d = .error error ∧
        x = .spec r.watch.id error := by
  rw [runSpec, Resource.spec?]
  cases Entries.get? "spec" r.watch.data with
  | none => simp
  | some d =>
    simp only [mapError_eq_error, Option.some.injEq]
    constructor
    · rintro ⟨error, hd, rfl⟩
      exact ⟨d, error, rfl, hd, rfl⟩
    · rintro ⟨_, error, rfl, hd, rfl⟩
      exact ⟨error, hd, rfl⟩

/-- A text that may be absent is not empty after its default iff it is there and not empty. -/
theorem getD_ne_empty {s : Option String} : s.getD "" ≠ "" ↔ ∃ t, s = some t ∧ t ≠ "" := by
  cases s <;> simp

/-- The run of a request is valid when nothing is missing from it. -/
theorem validate_runRequest : (r.runRequest spec).validate = .ok () ↔ r.Complete spec := by
  have hvalid : (r.runRequest spec).validate = .ok () ↔
      r.watch.metadata.uid.getD "" ≠ "" ∧ r.watch.metadata.name.getD "" ≠ "" ∧
        r.watch.metadata.uid.getD "" ≠ "" ∧ spec.tasks ≠ [] := RunRequest.validate_eq_ok
  rw [hvalid, getD_ne_empty, getD_ne_empty]
  -- The watched resource is watch and run, so its uid is asked for twice.
  constructor
  · rintro ⟨huid, hname, -, htasks⟩
    exact ⟨huid, hname, htasks⟩
  · rintro ⟨huid, hname, htasks⟩
    exact ⟨huid, hname, huid, htasks⟩

/-- Otherwise the run is refused for the first thing that it lacks. -/
theorem validate_runRequest_of_lacks {fault : RunFault} (h : r.Lacks spec fault) :
    (r.runRequest spec).validate = .error (.invalid fault) := by
  -- The run and the watch have one uid, so the third test is never the first to fail.
  have hvalidate : (r.runRequest spec).validate =
      if (r.watch.metadata.uid.getD "").isEmpty then .error (.invalid .runUid)
      else if (r.watch.metadata.name.getD "").isEmpty then .error (.invalid .runName)
      else if (r.watch.metadata.uid.getD "").isEmpty then .error (.invalid .watchUid)
      else if spec.tasks.isEmpty then .error (.invalid .tasks)
      else .ok () := rfl
  simp only [hvalidate, String.isEmpty_iff, List.isEmpty_iff]
  cases h with
  | uid h => rw [if_pos h]
  | name huid h => rw [if_neg huid, if_pos h]
  | tasks huid hname h => rw [if_neg huid, if_neg hname, if_neg huid, if_pos h]

/-- A run that lacks nothing is complete. -/
theorem complete_or_lacks (r : ReconcileRequest) (spec : RunSpec) :
    r.Complete spec ∨ ∃ fault, r.Lacks spec fault := by
  by_cases huid : r.watch.metadata.uid.getD "" = ""
  · exact .inr ⟨_, .uid huid⟩
  by_cases hname : r.watch.metadata.name.getD "" = ""
  · exact .inr ⟨_, .name huid hname⟩
  by_cases htasks : spec.tasks = []
  · exact .inr ⟨_, .tasks huid hname htasks⟩
  · exact .inl ⟨getD_ne_empty.mp huid, getD_ne_empty.mp hname, htasks⟩

/-- The guard of the run is evaluated over the attached resources. -/
theorem guardHolds_runRequest {x : Except SelectError Bool} (h : r.GuardAnswers spec x) :
    (r.runRequest spec).guardHolds = x.mapError .guard := by
  have hguard : (r.runRequest spec).spec.guard = spec.guard := rfl
  have hobserved : (r.runRequest spec).observed = r.attachments.values := rfl
  rw [RunRequest.guardHolds, hguard, hobserved]
  cases h with
  | unguarded h => simp [h, Except.mapError]
  | answered h ha => simp [h, Assertion.evaluate_eq_iff.mpr ha, Except.mapError, Except.map]
  | unanswered h ha => simp [h, Assertion.evaluate_eq_iff.mpr ha, Except.mapError, Except.map]

/-- Some answer there always is. -/
theorem exists_guardAnswers (r : ReconcileRequest) (spec : RunSpec) :
    ∃ x, r.GuardAnswers spec x := by
  cases hguard : spec.guard with
  | none => exact ⟨_, .unguarded hguard⟩
  | some a =>
    obtain ⟨x, hx⟩ := Assertion.exists_verdict a r.attachments.values
    cases x with
    | ok o => exact ⟨_, .answered hguard hx⟩
    | error error => exact ⟨_, .unanswered hguard hx⟩

/-- A request asks for one run at most. -/
theorem Specifies.unique {spec' : RunSpec} (h : r.Specifies spec) (h' : r.Specifies spec') :
    spec = spec' :=
  ok_unique (runSpec_eq_ok.mpr h) (runSpec_eq_ok.mpr h')

/-- The guard has one answer. -/
theorem GuardAnswers.unique {x y : Except SelectError Bool} (hx : r.GuardAnswers spec x)
    (hy : r.GuardAnswers spec y) : x = y := by
  have hsame : x.mapError RunError.guard = y.mapError RunError.guard := by
    rw [← guardHolds_runRequest hx, ← guardHolds_runRequest hy]
  -- The error of the guard is kept whole.
  cases x <;> cases y <;> simp_all [Except.mapError]

end Asked

/-! ### The ways a request goes -/

/-- A request fails with this error: the spec of the watched resource does not read, or something
    is missing from its run, or the guard of a complete run has no answer. -/
inductive Fails (r : ReconcileRequest) : ReconcileError → Prop
  | unreadable {d : Document} {error : Wire.DecodeError}
      (h : Entries.get? "spec" r.watch.data = some d) (hd : RunSpec.decode d = .error error) :
      Fails r (.spec r.watch.id error)
  | incomplete {spec : RunSpec} {fault : RunFault} (h : r.Specifies spec)
      (hlacks : r.Lacks spec fault) : Fails r (.run r.watch.id (.invalid fault))
  | unanswered {spec : RunSpec} {error : SelectError} (h : r.Specifies spec)
      (hcomplete : r.Complete spec) (hguard : r.GuardAnswers spec (.error error)) :
      Fails r (.run r.watch.id (.guard error))

/-- The guard of a complete run does not let it run. -/
structure Skips (r : ReconcileRequest) (spec : RunSpec) : Prop where
  specifies : r.Specifies spec
  complete : r.Complete spec
  guard : r.GuardAnswers spec (.ok false)

/-- The guard of a complete run, if it has one, lets it run. -/
structure Runs (r : ReconcileRequest) (spec : RunSpec) : Prop where
  specifies : r.Specifies spec
  complete : r.Complete spec
  guard : r.GuardAnswers spec (.ok true)

variable {r : ReconcileRequest} {spec spec' : RunSpec}

/-- Every request goes one of the ways. -/
theorem fails_or_skips_or_runs (r : ReconcileRequest) :
    (∃ error, r.Fails error) ∨ (∃ spec, r.Skips spec) ∨ ∃ spec, r.Runs spec := by
  cases hspec : r.runSpec with
  | error error =>
    obtain ⟨d, cause, hd, hcause, -⟩ := runSpec_eq_error.mp hspec
    exact .inl ⟨_, .unreadable hd hcause⟩
  | ok spec =>
    have hspecifies := runSpec_eq_ok.mp hspec
    rcases r.complete_or_lacks spec with hcomplete | ⟨fault, hlacks⟩
    · obtain ⟨x, hx⟩ := r.exists_guardAnswers spec
      cases x with
      | error error => exact .inl ⟨_, .unanswered hspecifies hcomplete hx⟩
      | ok holds =>
        cases holds with
        | false => exact .inr (.inl ⟨spec, hspecifies, hcomplete, hx⟩)
        | true => exact .inr (.inr ⟨spec, hspecifies, hcomplete, hx⟩)
    · exact .inl ⟨_, .incomplete hspecifies hlacks⟩

/-- A run that fails fails the request that asks for it. -/
theorem plan_of_run_eq_error {e : Engine} {error : RunError} (hspec : r.Specifies spec)
    (hrun : e.run (r.runRequest spec) = .error error) :
    r.plan e = .error (.run r.watch.id error) := by
  rw [plan, runSpec_eq_ok.mpr hspec]
  dsimp only [bind, Except.bind]
  rw [hrun]
  rfl

/-- A request that fails has no plan. -/
theorem plan_of_fails {error : ReconcileError} (h : r.Fails error) (e : Engine) :
    r.plan e = .error error := by
  cases h with
  | unreadable hd herror =>
    rw [plan, runSpec_eq_error.mpr ⟨_, _, hd, herror, rfl⟩]
    rfl
  | incomplete hspec hlacks =>
    refine plan_of_run_eq_error hspec ?_
    rw [Engine.run, validate_runRequest_of_lacks hlacks]
    rfl
  | unanswered hspec hcomplete hguard =>
    -- The guard is evaluated after the request was found complete.
    refine plan_of_run_eq_error hspec ?_
    rw [Engine.run, validate_runRequest.mpr hcomplete, guardHolds_runRequest hguard]
    rfl

/-- A request whose run is complete and whose guard has an answer has a plan. -/
theorem plan_of_complete {holds : Bool} (hspec : r.Specifies spec) (hcomplete : r.Complete spec)
    (hguard : r.GuardAnswers spec (.ok holds)) (e : Engine) :
    r.plan e = .ok (if holds then Run.ofSteps (Run.steps (r.taskContext e) [] spec.tasks)
      else Run.stopped spec.tasks.length) := by
  have hvalid := validate_runRequest.mpr hcomplete
  have hholds := guardHolds_runRequest hguard
  simp only [plan, bind_eq_ok, mapError_eq_ok]
  refine ⟨spec, runSpec_eq_ok.mpr hspec, Engine.run_eq_ok.mpr ⟨hvalid, ?_⟩⟩
  cases holds with
  | true => exact .inl ⟨hholds, rfl⟩
  | false => exact .inr ⟨hholds, rfl⟩

/-- A request does not fail when its run is complete and the guard has an answer. -/
theorem not_fails {holds : Bool} (hspec : r.Specifies spec) (hcomplete : r.Complete spec)
    (hguard : r.GuardAnswers spec (.ok holds)) : ¬ ∃ error, r.Fails error := by
  rintro ⟨error, h⟩
  -- What is planned does not hang on the engine, so any one will do.
  have hplan := plan_of_complete hspec hcomplete hguard (.ofSettings .default)
  rw [plan_of_fails h] at hplan
  cases hplan

/-- A request that is skipped does not fail. -/
theorem Skips.not_fails (h : r.Skips spec) : ¬ ∃ error, r.Fails error :=
  ReconcileRequest.not_fails h.specifies h.complete h.guard

theorem Runs.not_fails (h : r.Runs spec) : ¬ ∃ error, r.Fails error :=
  ReconcileRequest.not_fails h.specifies h.complete h.guard

/-- A run that is carried out is not skipped as well. -/
theorem Runs.not_skips (h : r.Runs spec) : ¬ ∃ spec, r.Skips spec := by
  rintro ⟨spec', hskips⟩
  obtain rfl := h.specifies.unique hskips.specifies
  cases h.guard.unique hskips.guard

/-- A request runs the tasks of one spec only. -/
theorem Runs.unique (h : r.Runs spec) (h' : r.Runs spec') : spec = spec' :=
  h.specifies.unique h'.specifies

end ReconcileRequest

end Reconciler
