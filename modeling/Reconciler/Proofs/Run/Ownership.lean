import Reconciler.Proofs.Plan.Marker
import Reconciler.Proofs.Run.Aggregation
import Reconciler.Proofs.Task.Contribution

namespace Reconciler

/-!
# Whose resources a run returns

A run sorts what it returns by the watch that created it: resources of the watch, and
those that the watch creates, are desired, and all others are explicit.

* `Engine.mem_of_run` — each list of a run in terms of its tasks;
* `Engine.run_sources` — no list holds a resource that belongs into another one;
* `Engine.run_desired_createdBy_iff` — when all desired resources still carry the marker of
  the watch.
-/

/-! ### Lists of a run -/

section Lists

variable {e : Engine} {r : RunRequest} {o : RunOutcome} {x : Resource}

/-- The tasks carried out are among the tasks of the run. -/
theorem Run.mem_of_mem_kept {tasks : List Task} {t : Task} (h : t ∈ kept tasks) : t ∈ tasks := by
  rw [kept, List.mem_map] at h
  obtain ⟨⟨t', i⟩, hmem, rfl⟩ := h
  exact List.fst_mem_of_mem_zipIdx (List.mem_filter.mp hmem).1

/-- A run returns, in each of its lists, what its tasks contribute, if its guard lets it
    run. -/
theorem Engine.mem_of_run {part : Delta → List Resource} (hpart : Run.Joins part)
    (h : e.run r = .ok o) :
    x ∈ part o.delta ↔
      r.guardHolds = .ok true ∧
        ∃ t ∈ Run.kept r.spec.tasks, x ∈ part (t.execute (e.context r)).delta := by
  obtain ⟨-, ⟨hguard, rfl⟩ | ⟨hguard, rfl⟩⟩ := run_eq_ok.mp h
  · rw [Run.part_delta_ofSteps hpart, List.mem_flatMap]
    simp [hguard]
  · have hempty : part (Run.stopped r.spec.tasks.length).delta = [] := hpart.empty
    simp [hempty, hguard]

end Lists

/-! ### Sources -/

/-- A run tells the host to delete only observed resources, as they are, that the watch
    has not created, and to change only such resources, at their addresses.  A desired
    resource is one that a task of the run creates, and it records this watch, this run
    and the task, or it stands at the address of an observed resource of the watch. -/
theorem Engine.run_sources (e : Engine) (r : RunRequest) (o : RunOutcome) (h : e.run r = .ok o) :
    (∀ x ∈ o.delta.explicitDeletes, x ∈ r.observed ∧ x.createdBy r.watch = false) ∧
      (∀ x ∈ o.delta.explicitUpdates,
        ∃ s ∈ r.observed, s.createdBy r.watch = false ∧ x.id = s.id) ∧
      ∀ x ∈ o.delta.desired,
        (∃ t ∈ r.spec.tasks, t.Creates (e.context r) x ∧
          x.provenance? =
            some ⟨Owner.watch r.watch.uid r.watch.name,
              some (Owner.run r.run.uid r.run.name), some t.key⟩) ∨
        ∃ s ∈ r.observed, s.createdBy r.watch = true ∧ x.id = s.id := by
  have huid : (e.context r).watch.uid ≠ "" := watch_uid_ne h
  -- Each list is joined from what the tasks contribute, so one task is looked at.
  refine ⟨?_, ?_, ?_⟩
  · intro x hx
    obtain ⟨-, t, -, hx⟩ := (mem_of_run Run.joins_explicitDeletes h).mp hx
    exact (Task.mem_explicitDeletes_execute.mp hx).mem
  · intro x hx
    obtain ⟨-, t, -, hx⟩ := (mem_of_run Run.joins_explicitUpdates h).mp hx
    obtain ⟨patch, s, hmerges, hother, hx⟩ := Task.mem_explicitUpdates_execute.mp hx
    exact ⟨s, hmerges.mem, hother, hmerges.id_eq hx⟩
  · intro x hx
    obtain ⟨-, t, ht, hx⟩ := (mem_of_run Run.joins_desired h).mp hx
    rcases Task.mem_desired_execute.mp hx with hcreates | ⟨patch, s, hmerges, hmine, hx⟩
    · exact .inl ⟨t, Run.mem_of_mem_kept ht, hcreates, hcreates.provenance?_eq huid⟩
    · exact .inr ⟨s, hmerges.mem, hmine, hmerges.id_eq hx⟩

namespace MixedRun

/-- A pod of no watch. -/
def pod (name : String) : Resource :=
  ⟨"v1", "Pod", { Metadata.empty with name := some name }, []⟩

/-- A pod of the watch. -/
def ownPod (name : String) : Resource :=
  Resource.withAnnotation (pod name) Provenance.createdDueToWatch "w-uid"

/-- A patch of the label of a pod. -/
def labelPatch : Document :=
  .obj [("metadata", .obj [("labels", .obj [("app", .str "web")])])]

/-- A template that asks for a deletion. -/
def deletion : Document :=
  .obj [("apiVersion", .str "v1"), ("kind", .str "Pod"), ("spec", .null)]

/-- A template of one config map. -/
def creation : Document :=
  .obj [("apiVersion", .str "v1"), ("kind", .str "ConfigMap"),
    ("metadata", .obj [("name", .str "settings")])]

/-- An update, a deletion and a creation over one pod of the watch and one of another. -/
def request : RunRequest where
  run := Owner.run "r-uid" "r"
  watch := Owner.watch "w-uid" "w"
  spec :=
    ⟨[⟨"update", none, none, none, some labelPatch, some (Selector.ofKind "Pod"), none⟩,
      ⟨"delete", none, none, none, some deletion, none, none⟩,
      ⟨"create", none, none, none, some creation, none, none⟩], none⟩
  observed := [ownPod "mine", pod "theirs"]

/-- What the run returns. -/
def outcome : RunOutcome :=
  Run.ofSteps (Run.steps ((Engine.ofSettings Settings.default).context request) []
    request.spec.tasks)

theorem run_request : (Engine.ofSettings Settings.default).run request = .ok outcome := by
  have hvalid : request.validate = .ok () := rfl
  exact Engine.run_eq_ok.mpr ⟨hvalid, .inl ⟨rfl, rfl⟩⟩

/-- Two resources are of the watch; a third is updated by one task and deleted by another. -/
theorem names_outcome :
    outcome.delta.desired.map (·.name) = ["mine", "settings"] ∧
      outcome.delta.explicitUpdates.map (·.name) = ["theirs"] ∧
      outcome.delta.explicitDeletes.map (·.name) = ["theirs"] := by
  decide +kernel

end MixedRun

open MixedRun in
/-- A run that returns something in each of its lists. -/
theorem Engine.run_sources_mixed :
    (Engine.ofSettings Settings.default).run request = .ok outcome ∧
      (outcome.delta.desired.map (·.name) = ["mine", "settings"] ∧
        outcome.delta.explicitUpdates.map (·.name) = ["theirs"] ∧
        outcome.delta.explicitDeletes.map (·.name) = ["theirs"]) ∧
      (∀ x ∈ outcome.delta.explicitDeletes,
        x ∈ request.observed ∧ x.createdBy request.watch = false) ∧
      (∀ x ∈ outcome.delta.explicitUpdates,
        ∃ s ∈ request.observed, s.createdBy request.watch = false ∧ x.id = s.id) ∧
      ∀ x ∈ outcome.delta.desired,
        (∃ t ∈ request.spec.tasks,
          t.Creates ((Engine.ofSettings Settings.default).context request) x ∧
            x.provenance? =
              some ⟨Owner.watch "w-uid" "w", some (Owner.run "r-uid" "r"), some t.key⟩) ∨
        ∃ s ∈ request.observed, s.createdBy request.watch = true ∧ x.id = s.id :=
  ⟨run_request, names_outcome, Engine.run_sources _ request outcome run_request⟩

/-! ### Markers -/

/-- The objects of a request are sorted, as those of all documents are. -/
structure RunRequest.WellFormed (r : RunRequest) : Prop where
  apply : ∀ t ∈ r.spec.tasks, ∀ d, t.apply = some d → d.WellFormed
  observed : ∀ s ∈ r.observed, s.encode.WellFormed

/-- The desired resources of a run all belong to its watch exactly when no task that is
    carried out patches the marker out of a resource of the watch.  What the tasks create
    belongs to the watch whatever their templates say. -/
theorem Engine.run_desired_createdBy_iff (e : Engine) (r : RunRequest) (o : RunOutcome)
    (hmerger : e.merger = threeWay) (hwf : r.WellFormed) (h : e.run r = .ok o) :
    (∀ x ∈ o.delta.desired, x.createdBy r.watch = true) ↔
      (r.guardHolds = .ok true → ∀ t ∈ Run.kept r.spec.tasks, ∀ patch s,
        t.Merges (e.context r) patch s → s.createdBy r.watch = true →
          KeepsMarker patch s r.watch.uid) := by
  have huid : r.watch.uid ≠ "" := watch_uid_ne h
  -- The merge of a resource of the watch decides about this one resource.
  have hone : ∀ t ∈ Run.kept r.spec.tasks, ∀ patch s x, t.Merges (e.context r) patch s →
      MergesTo (e.context r).merger patch s x →
        (x.createdBy r.watch = true ↔ KeepsMarker patch s r.watch.uid) := by
    intro t ht patch s x hmerges hx
    have hpatch := hwf.apply t (Run.mem_of_mem_kept ht) patch hmerges.apply_eq
    have hs := hwf.observed s hmerges.mem
    have hthreeWay : MergesTo threeWay patch s x := hmerger ▸ hx
    exact createdBy_of_mergesTo hpatch hs huid hthreeWay
  constructor
  · intro hall hguard t ht patch s hmerges hmine
    obtain ⟨x, hx, -⟩ := hmerges.exists_mergesTo
    have hdesired : x ∈ (t.execute (e.context r)).delta.desired :=
      Task.mem_desired_execute.mpr (.inr ⟨patch, s, hmerges, hmine, hx⟩)
    exact (hone t ht patch s x hmerges hx).mp
      (hall x ((mem_of_run Run.joins_desired h).mpr ⟨hguard, t, ht, hdesired⟩))
  · intro hkeeps x hx
    obtain ⟨hguard, t, ht, hx⟩ := (mem_of_run Run.joins_desired h).mp hx
    rcases Task.mem_desired_execute.mp hx with hcreates | ⟨patch, s, hmerges, hmine, hx⟩
    · exact hcreates.createdBy huid
    · exact (hone t ht patch s x hmerges hx).mpr (hkeeps hguard t ht patch s hmerges hmine)

namespace MarkerPatch

/-- A pod with this marker. -/
def pod (marker : String) : Resource :=
  ⟨"v1", "Pod",
    { Metadata.empty with
      name := some "web"
      annotations := some (Table.empty.insert Provenance.createdDueToWatch marker) },
    []⟩

/-- A patch of the marker. -/
def patch (marker : String) : Document :=
  .obj [("metadata",
    .obj [("annotations", .obj [(Provenance.createdDueToWatch, .str marker)])])]

/-- A task that patches the marker of every pod. -/
def task (marker : String) : Task :=
  ⟨"mark", none, none, none, some (patch marker), some (Selector.ofKind "Pod"), none⟩

/-- A run of that task over a pod of the watch. -/
def request (marker : String) : RunRequest where
  run := Owner.run "r-uid" "r"
  watch := Owner.watch "w-uid" "w"
  spec := ⟨[task marker], none⟩
  observed := [pod "w-uid"]

/-- What the run returns. -/
def outcome (marker : String) : RunOutcome :=
  Run.ofSteps (Run.steps ((Engine.ofSettings Settings.default).context (request marker)) []
    (request marker).spec.tasks)

theorem run_request (marker : String) :
    (Engine.ofSettings Settings.default).run (request marker) = .ok (outcome marker) := by
  have hvalid : (request marker).validate = .ok () := rfl
  exact Engine.run_eq_ok.mpr ⟨hvalid, .inl ⟨rfl, rfl⟩⟩

theorem wellFormed_request (marker : String) : (request marker).WellFormed := by
  constructor
  · simp [request, task, patch, Document.WellFormed, Document.MembersWellFormed, Entries.Sorted]
  · intro s hs
    obtain rfl := List.mem_singleton.mp hs
    decide +kernel

end MarkerPatch

open MarkerPatch in
/-- A patch that writes the marker of the watch leaves it the pod. -/
theorem Engine.run_desired_createdBy_sameMarker :
    (Engine.ofSettings Settings.default).merger = threeWay ∧ (request "w-uid").WellFormed ∧
      (Engine.ofSettings Settings.default).run (request "w-uid") = .ok (outcome "w-uid") ∧
      ∀ x ∈ (outcome "w-uid").delta.desired, x.createdBy (request "w-uid").watch = true := by
  refine ⟨rfl, wellFormed_request _, run_request _, ?_⟩
  refine (Engine.run_desired_createdBy_iff _ _ _ rfl (wellFormed_request _) (run_request _)).mpr ?_
  intro _ t ht p s hmerges _
  obtain rfl : t = task "w-uid" := List.mem_singleton.mp (Run.mem_of_mem_kept ht)
  obtain rfl : patch "w-uid" = p := Option.some.inj hmerges.apply_eq
  exact .inl rfl

open MarkerPatch in
/-- A patch that writes another marker takes the pod from the watch, and yet it is desired. -/
theorem Engine.run_desired_otherMarker :
    ∃ o, (Engine.ofSettings Settings.default).run (request "v-uid") = .ok o ∧
      ∃ x ∈ o.delta.desired, x.createdBy (request "v-uid").watch = false := by
  refine ⟨outcome "v-uid", run_request _, ?_⟩
  have hany : (outcome "v-uid").delta.desired.any
      (fun x => !x.createdBy (request "v-uid").watch) = true := by
    decide +kernel
  obtain ⟨x, hx, hother⟩ := List.any_eq_true.mp hany
  exact ⟨x, hx, by simpa using hother⟩

end Reconciler
