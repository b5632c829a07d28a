import Reconciler.Proofs.Plan.Template
import Reconciler.Proofs.Plan.Update
import Reconciler.Proofs.Resource.Stamp
import Reconciler.Proofs.Task.Execution

namespace Reconciler.Task

/-!
# Where the resources that a task contributes come from

* `Merges`, `Creates`, `Deletes` — the task merges its patch into an observed resource,
  creates a replica, or has an observed resource deleted;
* `mem_desired_execute`, `mem_explicitUpdates_execute`, `mem_explicitDeletes_execute` —
  the members of the three lists;
* `Merges.id_eq`, `Creates.provenance?_eq`, `Deletes.mem` — what is known of each.
-/

variable {t : Task} {ctx : TaskContext} {patch : Document} {s x : Resource}

/-- The task carries out an update, with this patch, that selects the observed resource. -/
def Merges (t : Task) (ctx : TaskContext) (patch : Document) (s : Resource) : Prop :=
  ∃ replicas target selector plan,
    (t.Proceeds ctx replicas ∧ t.assert = none ∧ t.apply = some patch ∧ t.target = some target) ∧
      target.compile = .ok selector ∧
      planUpdate ctx.settings ctx.merger ctx.watch patch target ctx.observed = .ok plan ∧
      s ∈ ctx.observed ∧ selector.accepts s = true

/-- The task carries out a creation, and the resource is one of the replicas. -/
def Creates (t : Task) (ctx : TaskContext) (x : Resource) : Prop :=
  ∃ replicas template plan,
    (t.Proceeds ctx replicas ∧ t.assert = none ∧ t.apply = some template ∧ t.target = none) ∧
      isDeleteIntent template replicas = false ∧
      planCreate ctx.settings (t.provenance ctx) template (replicas.getD 1) = .ok plan ∧
      x ∈ plan.desired

/-- The task carries out a deletion, and the host is told to delete the resource. -/
def Deletes (t : Task) (ctx : TaskContext) (x : Resource) : Prop :=
  ∃ replicas template plan,
    (t.Proceeds ctx replicas ∧ t.assert = none ∧ t.apply = some template ∧ t.target = none) ∧
      isDeleteIntent template replicas = true ∧
      planDelete ctx.settings ctx.watch template ctx.observed = .ok plan ∧ x ∈ plan.explicit

/-! ### Members of the three lists -/

/-- An assertion contributes nothing. -/
@[simp] theorem delta_asserted (t : Task) (outcome : AssertionOutcome) :
    (t.asserted outcome).delta = Delta.empty := by
  unfold asserted
  split <;> rfl

/-- A desired resource was created, or it was merged from one that the watch has created. -/
theorem Executes.of_mem_desired {y : Execution} (h : t.Executes ctx y)
    (hx : x ∈ y.delta.desired) :
    t.Creates ctx x ∨
      ∃ patch s, t.Merges ctx patch s ∧ s.createdBy ctx.watch = true ∧
        MergesTo ctx.merger patch s x := by
  cases h with
  | updated hproceeds hassert happly htarget h =>
    -- The plan itself says that its target compiles.
    obtain ⟨selector, -, hselector, -⟩ := planUpdate_eq_ok.mp h
    obtain ⟨s, hs, ⟨hmine, haccepts⟩, hx⟩ := (mem_desired_of_planUpdate hselector h).mp hx
    exact .inr ⟨_, s, ⟨_, _, selector, _, ⟨hproceeds, hassert, happly, htarget⟩, hselector, h, hs,
      haccepts⟩, hmine, hx⟩
  | created hproceeds hassert happly htarget hintent h =>
    exact .inl ⟨_, _, _, ⟨hproceeds, hassert, happly, htarget⟩, hintent, h, hx⟩
  | asserted =>
    rw [delta_asserted] at hx
    cases hx
  | _ => cases hx

/-- An explicit update was merged from a resource of another owner. -/
theorem Executes.of_mem_explicitUpdates {y : Execution} (h : t.Executes ctx y)
    (hx : x ∈ y.delta.explicitUpdates) :
    ∃ patch s, t.Merges ctx patch s ∧ s.createdBy ctx.watch = false ∧
      MergesTo ctx.merger patch s x := by
  cases h with
  | updated hproceeds hassert happly htarget h =>
    -- Only an update contributes here, by merging a resource of another owner.
    obtain ⟨selector, -, hselector, -⟩ := planUpdate_eq_ok.mp h
    obtain ⟨s, hs, ⟨hother, haccepts⟩, hx⟩ := (mem_explicit_of_planUpdate hselector h).mp hx
    exact ⟨_, s, ⟨_, _, selector, _, ⟨hproceeds, hassert, happly, htarget⟩, hselector, h, hs,
      haccepts⟩, hother, hx⟩
  | asserted =>
    rw [delta_asserted] at hx
    cases hx
  | _ => cases hx

/-- An explicit delete is a resource that the task deletes. -/
theorem Executes.of_mem_explicitDeletes {y : Execution} (h : t.Executes ctx y)
    (hx : x ∈ y.delta.explicitDeletes) : t.Deletes ctx x := by
  cases h with
  | deleted hproceeds hassert happly htarget hintent h =>
    exact ⟨_, _, _, ⟨hproceeds, hassert, happly, htarget⟩, hintent, h, hx⟩
  | asserted =>
    rw [delta_asserted] at hx
    cases hx
  | _ => cases hx

/-- The resources that a task makes desired are those that it creates, and what it merges
    those of the watch into. -/
theorem mem_desired_execute :
    x ∈ (t.execute ctx).delta.desired ↔
      t.Creates ctx x ∨
        ∃ patch s, t.Merges ctx patch s ∧ s.createdBy ctx.watch = true ∧
          MergesTo ctx.merger patch s x := by
  constructor
  · exact (executes_execute t ctx).of_mem_desired
  · rintro (⟨_, _, plan, ⟨hproceeds, hassert, happly, htarget⟩, hintent, h, hx⟩ |
      ⟨patch, s, ⟨_, _, selector, plan, ⟨hproceeds, hassert, happly, htarget⟩, hselector, h, hs,
        haccepts⟩, hmine, hx⟩)
    · -- A creation and an update; a task is carried out in one way, so this is how.
      rw [executes_iff.mp (.created hproceeds hassert happly htarget hintent h)]
      exact hx
    · rw [executes_iff.mp (.updated hproceeds hassert happly htarget h)]
      exact (mem_desired_of_planUpdate hselector h).mpr ⟨s, hs, ⟨hmine, haccepts⟩, hx⟩

/-- The resources that the host is told to change are what the others are merged into. -/
theorem mem_explicitUpdates_execute :
    x ∈ (t.execute ctx).delta.explicitUpdates ↔
      ∃ patch s, t.Merges ctx patch s ∧ s.createdBy ctx.watch = false ∧
        MergesTo ctx.merger patch s x := by
  constructor
  · exact (executes_execute t ctx).of_mem_explicitUpdates
  · rintro ⟨patch, s, ⟨_, _, selector, plan, ⟨hproceeds, hassert, happly, htarget⟩, hselector, h,
      hs, haccepts⟩, hother, hx⟩
    rw [executes_iff.mp (.updated hproceeds hassert happly htarget h)]
    exact (mem_explicit_of_planUpdate hselector h).mpr ⟨s, hs, ⟨hother, haccepts⟩, hx⟩

/-- The explicit deletes are what the task deletes. -/
theorem mem_explicitDeletes_execute :
    x ∈ (t.execute ctx).delta.explicitDeletes ↔ t.Deletes ctx x := by
  constructor
  · exact (executes_execute t ctx).of_mem_explicitDeletes
  · rintro ⟨_, _, plan, ⟨hproceeds, hassert, happly, htarget⟩, hintent, h, hx⟩
    rw [executes_iff.mp (.deleted hproceeds hassert happly htarget hintent h)]
    exact hx

/-! ### What is known of them -/

theorem Merges.mem (h : t.Merges ctx patch s) : s ∈ ctx.observed := by
  obtain ⟨_, _, _, _, -, -, -, hs, -⟩ := h
  exact hs

theorem Merges.apply_eq (h : t.Merges ctx patch s) : t.apply = some patch := by
  obtain ⟨_, _, _, _, ⟨-, -, happly, -⟩, -⟩ := h
  exact happly

/-- Every merge that a task carries out has a result, at the same address. -/
theorem Merges.exists_mergesTo (h : t.Merges ctx patch s) :
    ∃ u, MergesTo ctx.merger patch s u ∧ u.id = s.id := by
  obtain ⟨_, _, _, _, -, hselector, hplan, hs, haccepts⟩ := h
  exact exists_mergesTo_of_planUpdate hselector hplan hs haccepts

/-- A merge that is carried out keeps the address. -/
theorem Merges.id_eq (h : t.Merges ctx patch s) (hx : MergesTo ctx.merger patch s x) :
    x.id = s.id := by
  obtain ⟨u, hu, hid⟩ := h.exists_mergesTo
  rw [hx.unique hu, hid]

/-- A created resource is a stamped copy of a template. -/
theorem Creates.eq_stamped (h : t.Creates ctx x) :
    ∃ r name, x = (Resource.stamped r (t.provenance ctx)).withName name := by
  obtain ⟨_, _, _, -, -, hplan, hx⟩ := h
  obtain ⟨r, name, -, rfl⟩ := exists_name_of_planCreate hplan hx
  exact ⟨r, name, rfl⟩

/-- A created resource belongs to the watch. -/
theorem Creates.createdBy (h : t.Creates ctx x) (huid : ctx.watch.uid ≠ "") :
    x.createdBy ctx.watch = true := by
  obtain ⟨_, _, _, -, -, hplan, hx⟩ := h
  exact createdBy_of_planCreate hplan hx huid

/-- A created resource records the watch, the run and the task. -/
theorem Creates.provenance?_eq (h : t.Creates ctx x) (huid : ctx.watch.uid ≠ "") :
    x.provenance? =
      some ⟨Owner.watch ctx.watch.uid ctx.watch.name,
        some (Owner.run ctx.run.uid ctx.run.name), some t.key⟩ := by
  obtain ⟨r, name, rfl⟩ := h.eq_stamped
  rw [Resource.provenance?_withName]
  exact Resource.provenance?_withProvenance _ huid

/-- A resource to be deleted is observed, and none of the watch. -/
theorem Deletes.mem (h : t.Deletes ctx x) : x ∈ ctx.observed ∧ x.createdBy ctx.watch = false := by
  obtain ⟨_, _, _, -, -, hplan, hx⟩ := h
  obtain ⟨hobserved, hother, -⟩ := (mem_explicit_of_planDelete hplan).mp hx
  exact ⟨hobserved, hother⟩

end Reconciler.Task
