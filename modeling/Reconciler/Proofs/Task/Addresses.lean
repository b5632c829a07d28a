import Reconciler.Proofs.Plan.Replicas
import Reconciler.Proofs.Task.Contribution

namespace Reconciler

/-!
# The addresses of what a task contributes

A host that is given two versions of one resource could not carry out both.  A task never
gives it two: replicas have names of their own, an update leaves every resource at its address
and files it once, and a deletion only chooses among what is observed.

* `ids_planUpdate_perm`, `nodup_ids_planUpdate` — the two lists of an update;
* `nodup_ids_planDelete` — the resources of a deletion;
* `Delta.resources`, `Task.nodup_ids_execute` — all that one task contributes.
-/

variable {settings : Settings} {template : Document} {observed : List Resource}

/-! ### Updates -/

section Update

variable {merger : Merger} {watch : Owner} {patch : Document} {target : Selector}
  {plan : UpdatePlan} {selector : CompiledSelector}

/-- Merged resources stay at the addresses of their sources. -/
theorem ids_of_forall₂_mergesTo {sources us : List Resource}
    (h : List.Forall₂ (fun s u => MergesTo merger patch s u ∧ u.id = s.id) sources us) :
    us.map (·.id) = sources.map (·.id) := by
  rw [← List.forall₂_eq_eq_eq, List.forall₂_map_left_iff, List.forall₂_map_right_iff]
  exact h.flip.imp fun u s hu => hu.2

/-- An update files the selected resources in two lists, at their addresses, and each of them
    once. -/
theorem ids_planUpdate_perm (hselector : target.compile = .ok selector)
    (h : planUpdate settings merger watch patch target observed = .ok plan) :
    ((plan.desired ++ plan.explicit).map (·.id)).Perm
      ((observed.filter selector.accepts).map (·.id)) := by
  obtain ⟨hdesired, hexplicit⟩ := forall₂_planUpdate hselector h
  -- The sources of the two lists are the selected resources that pass a test and the others.
  rw [List.map_append, ids_of_forall₂_mergesTo hdesired, ids_of_forall₂_mergesTo hexplicit,
    ← List.map_append, ← List.filter_filter, ← List.filter_filter]
  exact (List.filter_append_perm _ _).map _

/-- Updates keep addresses, so those of an update are as distinct as the observed ones. -/
theorem nodup_ids_planUpdate (hobserved : (observed.map (·.id)).Nodup)
    (h : planUpdate settings merger watch patch target observed = .ok plan) :
    ((plan.desired ++ plan.explicit).map (·.id)).Nodup := by
  obtain ⟨selector, -, hselector, -⟩ := planUpdate_eq_ok.mp h
  rw [(ids_planUpdate_perm hselector h).nodup_iff]
  exact hobserved.sublist (List.filter_sublist.map _)

end Update

/-! ### Deletions -/

/-- Deleted resources are observed ones, each of them once. -/
theorem nodup_ids_planDelete {watch : Owner} {plan : DeletePlan}
    (hobserved : (observed.map (·.id)).Nodup)
    (h : planDelete settings watch template observed = .ok plan) :
    (plan.explicit.map (·.id)).Nodup := by
  obtain ⟨r, -, rfl⟩ := planDelete_eq_ok.mp h
  exact hobserved.sublist (List.filter_sublist.map _)

/-! ### Tasks -/

/-- All resources that a task contributes, whatever the host is to do with them. -/
def Delta.resources (d : Delta) : List Resource :=
  d.desired ++ d.explicitUpdates ++ d.explicitDeletes

namespace Task

variable {t : Task} {ctx : TaskContext}

/-- However a task is carried out, its resources have addresses of their own. -/
theorem Executes.nodup_ids {x : Execution} (h : t.Executes ctx x)
    (hobserved : (ctx.observed.map (·.id)).Nodup) : (x.delta.resources.map (·.id)).Nodup := by
  cases h with
  | failed => exact List.nodup_nil
  | stopped => exact List.nodup_nil
  | asserted =>
    rw [delta_asserted]
    exact List.nodup_nil
  | updated _ _ _ _ h =>
    -- Both lists of an update come from the observed resources.
    simpa only [Delta.resources, Task.updated, finished, List.append_nil] using
      nodup_ids_planUpdate hobserved h
  | created _ _ _ _ _ h =>
    -- Created resources have their own numbers.
    simpa only [Delta.resources, Task.created, finished, List.append_nil] using
      nodup_ids_planCreate h
  | deleted _ _ _ _ _ h => exact nodup_ids_planDelete hobserved h

/-- A task contributes no two resources of one address, in the same list or in different ones,
    as long as no two observed resources have one.  Its settings, its owners and its merger do
    not matter. -/
theorem nodup_ids_execute (t : Task) (ctx : TaskContext)
    (h : (ctx.observed.map (·.id)).Nodup) :
    ((t.execute ctx).delta.resources.map (·.id)).Nodup :=
  (executes_execute t ctx).nodup_ids h

namespace LabelledPods

/-- A pod with this marker. -/
def pod (name marker : String) : Resource :=
  Resource.withAnnotation ⟨"v1", "Pod", { Metadata.empty with name := some name }, []⟩
    Provenance.createdDueToWatch marker

/-- A task that labels every pod. -/
def task : Task where
  key := "label"
  desc := none
  guard := none
  assert := none
  apply := some (.obj [("metadata", .obj [("labels", .obj [("app", .str "web")])])])
  target := some (Selector.ofKind "Pod")
  replicas := none

/-- Pods of two watches, seen by the first one. -/
def context : TaskContext where
  observed := [pod "a" "w-uid", pod "b" "v-uid", pod "c" "w-uid"]
  watch := Owner.watch "w-uid" "w"
  run := Owner.run "r-uid" "r"
  merger := threeWay
  settings := Settings.default

end LabelledPods

open LabelledPods in
/-- The pods of the watch and that of the other one are labelled in different lists, and no
    two of them have one address. -/
theorem nodup_ids_execute_labelledPods :
    (context.observed.map (·.id)).Nodup ∧
      (task.execute context).delta.resources.map (·.name) = ["a", "c", "b"] ∧
      ((task.execute context).delta.resources.map (·.id)).Nodup := by
  have hobserved : (context.observed.map (·.id)).Nodup := by decide +kernel
  exact ⟨hobserved, by decide +kernel, nodup_ids_execute task context hobserved⟩

end Task

end Reconciler
