import Reconciler.Proofs.Plan.Failure
import Reconciler.Proofs.Selector.Matching

namespace Reconciler

/-!
# The outcome of an update

An update selects, merges, reads, checks and files in one go, with whatever merger its host has.
It fails as a whole or succeeds as a whole: each selected resource has its place in one of the two
lists, or none is returned.

* `Selector.selected` — the observed resources that match;
* `UpdateInfo.Reports` — the entry of one merge;
* `UpdateList`, `UpdatePlan.Files` — one list with its count and its entries, and a whole plan;
* `UpdatePlan.Idle` — the plan of an update of nothing;
* `UpdateOutcome` — how an update ends;
* `planUpdate_eq_iff` — every update ends in this way and in no other.
-/

/-! ### Selected resources -/

/-- The resources that match, in their order; none if the selector has a fault. -/
def Selector.selected (s : Selector) (rs : List Resource) : List Resource :=
  rs.filter fun r => s.matches r = .ok true

/-- A selector that compiles selects what it accepts, in the observed order. -/
theorem Selector.selected_of_compile {s : Selector} {c : CompiledSelector}
    (h : s.compile = .ok c) (rs : List Resource) : s.selected rs = rs.filter c.accepts := by
  refine List.filter_congr fun r _ => ?_
  have hmatches : s.matches r = .ok (c.accepts r) := bind_eq_ok.mpr ⟨c, h, rfl⟩
  simp [hmatches]

variable {settings : Settings} {merger : Merger} {watch : Owner} {patch : Document}
  {target : Selector} {observed : List Resource}

/-- The selected resources are merged one beside the other, apart by their owners. -/
theorem forall₂_selected_of_planUpdate {plan : UpdatePlan}
    (h : planUpdate settings merger watch patch target observed = .ok plan) :
    List.Forall₂ (fun s u => MergesTo merger patch s u ∧ u.id = s.id)
        ((target.selected observed).filter fun s => s.createdBy watch) plan.desired ∧
      List.Forall₂ (fun s u => MergesTo merger patch s u ∧ u.id = s.id)
        ((target.selected observed).filter fun s => !s.createdBy watch) plan.explicit := by
  obtain ⟨selector, -, hselector, -⟩ := planUpdate_eq_ok.mp h
  rw [Selector.selected_of_compile hselector, List.filter_filter, List.filter_filter]
  exact forall₂_planUpdate hselector h

/-! ### One list -/

/-- The entry names the resource that was merged, and has the difference of the merged document
    from that of the resource. -/
structure UpdateInfo.Reports (merger : Merger) (patch : Document) (s : Resource)
    (info : UpdateInfo) : Prop where
  resource : info.resource = s.id.display
  diff : ∃ d, merger s.encode patch patch = .ok d ∧ info.diff = d.diff s.encode

/-- The resources `us` are the merges of `sources`, each in its place and at its address, and
    `count` is how many they are.  The entries are those of the merges in the same order if they
    are listed, and there are none if they are not. -/
structure UpdateList (merger : Merger) (patch : Document) (listed : Bool)
    (sources us : List Resource) (count : Nat) (infos : List UpdateInfo) : Prop where
  merges : List.Forall₂ (fun s u => MergesTo merger patch s u ∧ u.id = s.id) sources us
  count : count = us.length
  entries : listed = true →
    List.Forall₂ (fun s info => info.Reports merger patch s) sources infos
  noEntries : listed = false → infos = []

/-- There is one true report of an update. -/
theorem UpdateInfo.Reports.unique {s : Resource} {i j : UpdateInfo}
    (hi : i.Reports merger patch s) (hj : j.Reports merger patch s) : i = j := by
  obtain ⟨resource, diff⟩ := i
  obtain ⟨resource', diff'⟩ := j
  obtain ⟨rfl, d, hd, rfl⟩ := hi
  obtain ⟨rfl, d', hd', rfl⟩ := hj
  rw [ok_unique hd hd']

/-- A list is told by what was merged. -/
theorem UpdateList.unique {listed : Bool} {sources us vs : List Resource} {m n : Nat}
    {is js : List UpdateInfo} (h : UpdateList merger patch listed sources us m is)
    (h' : UpdateList merger patch listed sources vs n js) : us = vs ∧ m = n ∧ is = js := by
  have hmerges : us = vs :=
    List.right_unique_forall₂' (fun _ _ _ hu hv => hu.1.unique hv.1) h.merges h'.merges
  refine ⟨hmerges, by rw [h.count, h'.count, hmerges], ?_⟩
  cases listed with
  | true =>
    exact List.right_unique_forall₂' (fun _ _ _ hi hj => hi.unique hj) (h.entries rfl)
      (h'.entries rfl)
  | false => rw [h.noEntries rfl, h'.noEntries rfl]

/-- The plan files the merges of the selected resources: in the one list those of the watch, in
    the other one the rest. -/
structure UpdatePlan.Files (plan : UpdatePlan) (settings : Settings) (merger : Merger)
    (watch : Owner) (patch : Document) (selected : List Resource) : Prop where
  desired : UpdateList merger patch (settings.categories.contains .desiredUpdate)
    (selected.filter fun s => s.createdBy watch) plan.desired plan.report.desired
    plan.report.desiredInfo
  explicit : UpdateList merger patch (settings.categories.contains .explicitUpdate)
    (selected.filter fun s => !s.createdBy watch) plan.explicit plan.report.explicit
    plan.report.explicitInfo
  phase : plan.report.phase = .online
  message : plan.report.message = "Update: " ++ toString plan.report.desired ++ " desired, " ++
    toString plan.report.explicit ++ " explicit"

/-- A plan is told by the resources that it files. -/
theorem UpdatePlan.Files.unique {plan plan' : UpdatePlan} {selected : List Resource}
    (h : plan.Files settings merger watch patch selected)
    (h' : plan'.Files settings merger watch patch selected) : plan = plan' := by
  obtain ⟨desired, explicit, phase, message, m, n, is, js⟩ := plan
  obtain ⟨desired', explicit', phase', message', m', n', is', js'⟩ := plan'
  obtain ⟨hdesired, hexplicit, hphase, hmessage⟩ := h
  obtain ⟨hdesired', hexplicit', hphase', hmessage'⟩ := h'
  -- Each part of a plan is one of what the rules determine.
  obtain ⟨rfl, rfl, rfl⟩ := hdesired.unique hdesired'
  obtain ⟨rfl, rfl, rfl⟩ := hexplicit.unique hexplicit'
  obtain rfl : phase = phase' := hphase.trans hphase'.symm
  obtain rfl : message = message' := hmessage.trans hmessage'.symm
  rfl

/-- The merges of a plan's two lists are those of all selected resources. -/
theorem UpdatePlan.Files.exists_mergesTo {plan : UpdatePlan} {selected : List Resource}
    (h : plan.Files settings merger watch patch selected) {s : Resource} (hs : s ∈ selected) :
    ∃ u, MergesTo merger patch s u ∧ u.id = s.id := by
  -- The resource is on the list of its owner.
  cases howned : s.createdBy watch with
  | true =>
    obtain ⟨u, -, hu⟩ := exists_right_of_forall₂ h.desired.merges
      (List.mem_filter.mpr ⟨hs, howned⟩)
    exact ⟨u, hu⟩
  | false =>
    obtain ⟨u, -, hu⟩ := exists_right_of_forall₂ h.explicit.merges
      (List.mem_filter.mpr ⟨hs, by rw [howned, Bool.not_false]⟩)
    exact ⟨u, hu⟩

namespace Overwriting

/-- A resource of this kind and with this name. -/
def resource (kind name : String) : Resource :=
  ⟨"v1", kind, { Metadata.empty with name := some name }, []⟩

/-- A pod with this name. -/
def pod (name : String) : Resource := resource "Pod" name

/-- A pod with this name that the watch has created. -/
def ownPod (name : String) : Resource :=
  Resource.withAnnotation (pod name) Provenance.createdDueToWatch "w-uid"

/-- The watch that has created it. -/
def creator : Owner := Owner.watch "w-uid" "w"

/-- The patch replaces whatever was there. -/
def overwrite : Merger := fun _ _ desired => .ok desired

/-- Pods that are overwritten with one of them. -/
def update (observed : List Resource) : Except PlanError UpdatePlan :=
  planUpdate .default overwrite creator (pod "a").encode (.ofKind "Pod") observed

end Overwriting

end Reconciler
