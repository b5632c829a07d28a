import Reconciler.Plan.Update
import Reconciler.Proofs.Resource.Equality
import Reconciler.Proofs.Success

namespace Reconciler

/-!
# What an update returns

An update merges its patch into every resource that its target selects, and each merged
resource must have the address of the one it was merged from.  The uid is no part of the
address.

* `MergesTo` — the merged document of a resource reads as this one;
* `updateOne_eq_ok` — the success of one merge;
* `planUpdate_eq` — a whole update, merge by merge;
* `planUpdate_eq_ok`, `exists_planUpdate_eq_ok` — the success of a whole update;
* `forall₂_planUpdate` — the returned resources beside those they were merged from;
* `mem_desired_of_planUpdate`, `mem_explicit_of_planUpdate` — the members of the two lists;
* `planUpdate_identity` — which updates succeed, and which keep the identities.
-/

variable {settings : Settings} {merger : Merger} {watch : Owner} {patch : Document}
  {target : Selector} {observed : List Resource}

/-! ### One merge -/

/-- The document of `s` merged with the patch, which also counts as last applied, reads
    as `u`. -/
def MergesTo (merger : Merger) (patch : Document) (s u : Resource) : Prop :=
  ∃ d, merger s.encode patch patch = .ok d ∧ Resource.decode d = .ok u

/-- A patch merges into one resource only. -/
theorem MergesTo.unique {s u v : Resource} (hu : MergesTo merger patch s u)
    (hv : MergesTo merger patch s v) : u = v := by
  obtain ⟨d, hd, hdu⟩ := hu
  obtain ⟨d', hd', hdv⟩ := hv
  obtain rfl := ok_unique hd hd'
  exact ok_unique hdu hdv

/-- One merge succeeds when the merged document reads as a resource of the same
    address.  Whether the resource is one of the watch is decided before the merge. -/
theorem updateOne_eq_ok {s : Resource} {u : Updated} :
    updateOne merger watch patch s = .ok u ↔
      ∃ d, merger s.encode patch patch = .ok d ∧ Resource.decode d = .ok u.resource ∧
        u.resource.id = s.id ∧ u.owned = s.createdBy watch ∧
        u.info = ⟨s.id.display, d.diff s.encode⟩ := by
  simp only [updateOne, bind_eq_ok, mapError_eq_ok]
  constructor
  · rintro ⟨d, hd, r, hr, h⟩
    split at h
    · -- The address is compared last.
      next hid =>
      rw [pure_eq_ok] at h
      subst h
      exact ⟨d, hd, hr, hid, rfl, rfl⟩
    · exact absurd h throw_ne_ok
  · rintro ⟨d, hd, hr, hid, howned, hinfo⟩
    refine ⟨d, hd, u.resource, hr, ?_⟩
    rw [if_pos hid, pure_eq_ok]
    cases u
    simp_all

/-- A resource is updated iff the patch merges into it and keeps its address. -/
theorem exists_updateOne_eq_ok {s : Resource} :
    (∃ u, updateOne merger watch patch s = .ok u) ↔
      ∃ r, MergesTo merger patch s r ∧ r.id = s.id := by
  simp only [updateOne_eq_ok]
  constructor
  · rintro ⟨u, d, hd, hr, hid, -⟩
    exact ⟨u.resource, ⟨d, hd, hr⟩, hid⟩
  · rintro ⟨r, ⟨d, hd, hr⟩, hid⟩
    exact ⟨⟨_, r, _⟩, d, hd, hr, hid, rfl, rfl⟩

/-! ### The whole update -/

/-- The plan of an update whose merges are these. -/
def UpdatePlan.ofUpdates (settings : Settings) (updates : List Updated) : UpdatePlan :=
  if updates.isEmpty then UpdatePlan.none
  else
    let desired := updates.filter (·.owned)
    let explicit := updates.filter (!·.owned)
    { desired := desired.map (·.resource)
      explicit := explicit.map (·.resource)
      report :=
        { phase := .online
          message := updateMessage desired.length explicit.length
          desired := desired.length
          explicit := explicit.length
          desiredInfo := listUpdates settings .desiredUpdate desired
          explicitInfo := listUpdates settings .explicitUpdate explicit } }

/-- Owned resources are desired. -/
@[simp] theorem UpdatePlan.desired_ofUpdates (updates : List Updated) :
    (UpdatePlan.ofUpdates settings updates).desired =
      (updates.filter (·.owned)).map (·.resource) := by
  cases updates <;> rfl

@[simp] theorem UpdatePlan.explicit_ofUpdates (updates : List Updated) :
    (UpdatePlan.ofUpdates settings updates).explicit =
      (updates.filter (!·.owned)).map (·.resource) := by
  cases updates <;> rfl

/-- The report lists the desired updates if the settings include them. -/
@[simp] theorem UpdatePlan.desiredInfo_ofUpdates (updates : List Updated) :
    (UpdatePlan.ofUpdates settings updates).report.desiredInfo =
      listUpdates settings .desiredUpdate (updates.filter (·.owned)) := by
  cases updates with
  | nil => exact (ite_self _).symm
  | cons => rfl

@[simp] theorem UpdatePlan.explicitInfo_ofUpdates (updates : List Updated) :
    (UpdatePlan.ofUpdates settings updates).report.explicitInfo =
      listUpdates settings .explicitUpdate (updates.filter (!·.owned)) := by
  cases updates with
  | nil => exact (ite_self _).symm
  | cons => rfl

/-- An update merges the patch into every selected resource, and its plan is that of the
    merges.  Nothing is selected when nothing is merged. -/
theorem planUpdate_eq (settings : Settings) (merger : Merger) (watch : Owner) (patch : Document)
    (target : Selector) (observed : List Resource) :
    planUpdate settings merger watch patch target observed = (do
      let selector ← target.compile.mapError .select
      let updates ← (observed.filter selector.accepts).mapM (updateOne merger watch patch)
      return .ofUpdates settings updates) := by
  unfold planUpdate
  cases target.compile with
  | error e => rfl
  | ok selector =>
    dsimp only [bind, Except.bind, Except.mapError]
    cases observed.filter selector.accepts with
    | nil => rfl
    | cons s rest =>
      cases hmerges : (s :: rest).mapM (updateOne merger watch patch) with
      | error e => rfl
      | ok updates =>
        -- A selected resource means a merged one, so this is not the plan of no resource.
        obtain ⟨u, us, -, -, rfl⟩ := List.forall₂_cons_left_iff.mp (mapM_eq_ok.mp hmerges)
        rfl

/-- An update succeeds when its target compiles and every merge of a selected resource
    succeeds. -/
theorem planUpdate_eq_ok {plan : UpdatePlan} :
    planUpdate settings merger watch patch target observed = .ok plan ↔
      ∃ selector updates, target.compile = .ok selector ∧
        List.Forall₂ (fun s u => updateOne merger watch patch s = .ok u)
          (observed.filter selector.accepts) updates ∧
        plan = .ofUpdates settings updates := by
  simp only [planUpdate_eq, bind_eq_ok, mapError_eq_ok, mapM_eq_ok, pure_eq_ok, exists_and_left,
    eq_comm (a := plan)]

/-- The owner is decided before the merge, so the merges of the resources with a given owner are
    the merges with that owner. -/
theorem forall₂_filter_owned {sources : List Resource} {updates : List Updated}
    (h : List.Forall₂ (fun s u => updateOne merger watch patch s = .ok u) sources updates)
    (mine : Bool → Bool) :
    List.Forall₂ (fun s u => updateOne merger watch patch s = .ok u)
      (sources.filter fun s => mine (s.createdBy watch))
      (updates.filter fun u => mine u.owned) := by
  refine List.rel_filter ?_ h
  intro s u hu
  obtain ⟨_, _, _, _, howned, -⟩ := updateOne_eq_ok.mp hu
  show mine (s.createdBy watch) = true ↔ mine u.owned = true
  rw [howned]

/-- The merged resources with a given owner, one beside the other. -/
theorem forall₂_filter_updates {sources : List Resource} {updates : List Updated}
    (h : List.Forall₂ (fun s u => updateOne merger watch patch s = .ok u) sources updates)
    (mine : Bool → Bool) :
    List.Forall₂ (fun s u => MergesTo merger patch s u ∧ u.id = s.id)
      (sources.filter fun s => mine (s.createdBy watch))
      ((updates.filter fun u => mine u.owned).map (·.resource)) := by
  rw [List.forall₂_map_right_iff]
  refine (forall₂_filter_owned h mine).imp fun s u hu => ?_
  obtain ⟨d, hd, hr, hid, -⟩ := updateOne_eq_ok.mp hu
  exact ⟨⟨d, hd, hr⟩, hid⟩

/-- Each selected resource of the watch is merged into the desired one in its place, and
    each other selected one into the explicit one in its place, at the same address. -/
theorem forall₂_planUpdate {plan : UpdatePlan} {selector : CompiledSelector}
    (hselector : target.compile = .ok selector)
    (h : planUpdate settings merger watch patch target observed = .ok plan) :
    List.Forall₂ (fun s u => MergesTo merger patch s u ∧ u.id = s.id)
        (observed.filter fun s => s.createdBy watch && selector.accepts s) plan.desired ∧
      List.Forall₂ (fun s u => MergesTo merger patch s u ∧ u.id = s.id)
        (observed.filter fun s => !s.createdBy watch && selector.accepts s) plan.explicit := by
  obtain ⟨selector', updates, hselector', hmerges, rfl⟩ := planUpdate_eq_ok.mp h
  obtain rfl := ok_unique hselector hselector'
  rw [UpdatePlan.desired_ofUpdates, UpdatePlan.explicit_ofUpdates, ← List.filter_filter,
    ← List.filter_filter]
  exact ⟨forall₂_filter_updates hmerges id, forall₂_filter_updates hmerges not⟩

/-- A list of updates has what the patch merges into, for some source, and nothing else. -/
theorem mem_of_forall₂_mergesTo {sources us : List Resource} {u : Resource}
    (h : List.Forall₂ (fun s u => MergesTo merger patch s u ∧ u.id = s.id) sources us) :
    u ∈ us ↔ ∃ s ∈ sources, MergesTo merger patch s u := by
  constructor
  · intro hu
    obtain ⟨s, hs, hmerges, -⟩ := exists_left_of_forall₂ h hu
    exact ⟨s, hs, hmerges⟩
  · rintro ⟨s, hs, hmerges⟩
    obtain ⟨v, hv, hmerges', -⟩ := exists_right_of_forall₂ h hs
    rw [hmerges.unique hmerges']
    exact hv

/-- The desired resources of an update are what the selected ones of the watch are merged
    into. -/
theorem mem_desired_of_planUpdate {plan : UpdatePlan} {selector : CompiledSelector} {u : Resource}
    (hselector : target.compile = .ok selector)
    (h : planUpdate settings merger watch patch target observed = .ok plan) :
    u ∈ plan.desired ↔
      ∃ s ∈ observed, (s.createdBy watch = true ∧ selector.accepts s = true) ∧
        MergesTo merger patch s u := by
  rw [mem_of_forall₂_mergesTo (forall₂_planUpdate hselector h).1]
  simp only [List.mem_filter, Bool.and_eq_true, and_assoc]

/-- The explicit resources of an update are what the other selected ones are merged into. -/
theorem mem_explicit_of_planUpdate {plan : UpdatePlan} {selector : CompiledSelector} {u : Resource}
    (hselector : target.compile = .ok selector)
    (h : planUpdate settings merger watch patch target observed = .ok plan) :
    u ∈ plan.explicit ↔
      ∃ s ∈ observed, (s.createdBy watch = false ∧ selector.accepts s = true) ∧
        MergesTo merger patch s u := by
  rw [mem_of_forall₂_mergesTo (forall₂_planUpdate hselector h).2]
  simp only [List.mem_filter, Bool.and_eq_true, Bool.not_eq_true', and_assoc]

/-- Whether an update succeeds is decided by its target and by the merges of the selected
    resources, one by one. -/
theorem exists_planUpdate_eq_ok :
    (∃ plan, planUpdate settings merger watch patch target observed = .ok plan) ↔
      ∃ selector, target.compile = .ok selector ∧ ∀ s ∈ observed, selector.accepts s = true →
        ∃ u, MergesTo merger patch s u ∧ u.id = s.id := by
  have hmerge : ∀ s, (∃ u, updateOne merger watch patch s = .ok u) ↔
      ∃ u, MergesTo merger patch s u ∧ u.id = s.id := fun s => exists_updateOne_eq_ok
  simp only [← hmerge]
  constructor
  · rintro ⟨plan, h⟩
    obtain ⟨selector, updates, hselector, hmerges, -⟩ := planUpdate_eq_ok.mp h
    refine ⟨selector, hselector, fun s hs haccepts => ?_⟩
    have hselected : s ∈ observed.filter selector.accepts := List.mem_filter.mpr ⟨hs, haccepts⟩
    exact exists_mapM_eq_ok.mp ⟨updates, mapM_eq_ok.mpr hmerges⟩ s hselected
  · rintro ⟨selector, hselector, hmerges⟩
    -- Every selected resource can be updated, so all of them can, one after the other.
    have hall : ∀ s ∈ observed.filter selector.accepts,
        ∃ u, updateOne merger watch patch s = .ok u := by
      intro s hs
      obtain ⟨hs, haccepts⟩ := List.mem_filter.mp hs
      exact hmerges s hs haccepts
    obtain ⟨updates, hupdates⟩ := exists_mapM_eq_ok.mpr hall
    exact ⟨_, planUpdate_eq_ok.mpr ⟨selector, updates, hselector, mapM_eq_ok.mp hupdates, rfl⟩⟩

/-- A successful update merges every selected resource into one at its address. -/
theorem exists_mergesTo_of_planUpdate {plan : UpdatePlan} {selector : CompiledSelector}
    {s : Resource} (hselector : target.compile = .ok selector)
    (h : planUpdate settings merger watch patch target observed = .ok plan)
    (hs : s ∈ observed) (haccepts : selector.accepts s = true) :
    ∃ u, MergesTo merger patch s u ∧ u.id = s.id := by
  obtain ⟨selector', hselector', hmerges⟩ := exists_planUpdate_eq_ok.mp ⟨plan, h⟩
  obtain rfl := ok_unique hselector hselector'
  exact hmerges s hs haccepts

/-! ### Identities -/

/-- Resources at one address are the same exactly when they have the same uid. -/
theorem sameIdentity_iff_of_id_eq {s u : Resource} (h : u.id = s.id) :
    u.sameIdentity s = true ↔ u.uid = s.uid := by
  rw [Resource.sameIdentity_iff, Resource.identity, Resource.identity, h, Identity.mk.injEq]
  exact and_iff_right rfl

/-- An update succeeds exactly when its target compiles and every selected resource is
    merged into one of the same type, namespace and name; a merge that changes one of
    these makes it fail.  The returned resources stand beside those they were merged
    from, and such a pair has one identity exactly when the merge has left the uid as it
    was: no update fails for a changed uid. -/
theorem planUpdate_identity (settings : Settings) (merger : Merger) (watch : Owner)
    (patch : Document) (target : Selector) (observed : List Resource) :
    ((∃ plan, planUpdate settings merger watch patch target observed = .ok plan) ↔
      ∃ selector, target.compile = .ok selector ∧ ∀ s ∈ observed, selector.accepts s = true →
        ∃ u, MergesTo merger patch s u ∧ u.apiVersion = s.apiVersion ∧ u.kind = s.kind ∧
          u.namespaceName = s.namespaceName ∧ u.name = s.name) ∧
    ∀ plan selector, planUpdate settings merger watch patch target observed = .ok plan →
      target.compile = .ok selector →
        List.Forall₂
          (fun s u => MergesTo merger patch s u ∧ u.id = s.id ∧
            (u.sameIdentity s = true ↔ u.uid = s.uid))
          (observed.filter fun s => s.createdBy watch && selector.accepts s) plan.desired ∧
        List.Forall₂
          (fun s u => MergesTo merger patch s u ∧ u.id = s.id ∧
            (u.sameIdentity s = true ↔ u.uid = s.uid))
          (observed.filter fun s => !s.createdBy watch && selector.accepts s) plan.explicit := by
  constructor
  · rw [exists_planUpdate_eq_ok]
    simp only [Resource.id, ResourceId.mk.injEq]
  · intro plan selector h hselector
    obtain ⟨hdesired, hexplicit⟩ := forall₂_planUpdate hselector h
    -- Two resources at one address are told apart by their uids alone.
    have hpair : ∀ s u : Resource, MergesTo merger patch s u ∧ u.id = s.id →
        MergesTo merger patch s u ∧ u.id = s.id ∧ (u.sameIdentity s = true ↔ u.uid = s.uid) :=
      fun s u hu => ⟨hu.1, hu.2, sameIdentity_iff_of_id_eq hu.2⟩
    exact ⟨hdesired.imp hpair, hexplicit.imp hpair⟩

/-! ### A patch of the uid -/

namespace UidPatch

/-- A pod with this uid that no watch has created. -/
def pod (uid : String) : Resource :=
  ⟨"v1", "Pod", { Metadata.empty with name := some "web", uid := some uid }, []⟩

/-- A patch of nothing but the uid. -/
def newUid : Document := .obj [("metadata", .obj [("uid", .str "u-2")])]

/-- The selector of pods, with its path read. -/
def pods : CompiledSelector :=
  ⟨[⟨[(⟨"kind", .key "kind", []⟩, "Pod")], Table.empty, Table.empty⟩]⟩

/-- The pod with its new uid. -/
def updated : Updated :=
  ⟨false, pod "u-2", ⟨(pod "u-1").id.display, (pod "u-2").encode.diff (pod "u-1").encode⟩⟩

/-- The patch gives the pod another uid. -/
theorem mergesTo_pod : MergesTo threeWay newUid (pod "u-1") (pod "u-2") :=
  ⟨(pod "u-2").encode, rfl, rfl⟩

theorem compile_pods : (Selector.ofKind "Pod").compile = .ok pods := by
  decide +kernel

/-- The update is accepted: the address has no uid in it. -/
theorem planUpdate_pod :
    planUpdate Settings.default threeWay (Owner.watch "w-uid" "w") newUid (Selector.ofKind "Pod")
      [pod "u-1"] = .ok (.ofUpdates Settings.default [updated]) := by
  have hupdated : updateOne threeWay (Owner.watch "w-uid" "w") newUid (pod "u-1") = .ok updated :=
    updateOne_eq_ok.mpr ⟨(pod "u-2").encode, rfl, rfl, rfl, rfl, rfl⟩
  exact planUpdate_eq_ok.mpr ⟨pods, [updated], compile_pods, .cons hupdated .nil, rfl⟩

end UidPatch

open UidPatch in
/-- The patch of the uid goes through, and the pod that is returned has the address of the
    observed one. -/
theorem planUpdate_identity_pod :
    List.Forall₂
      (fun s u => MergesTo threeWay newUid s u ∧ u.id = s.id ∧
        (u.sameIdentity s = true ↔ u.uid = s.uid))
      [pod "u-1"] [pod "u-2"] := by
  have h := ((planUpdate_identity Settings.default threeWay (Owner.watch "w-uid" "w") newUid
    (Selector.ofKind "Pod") [pod "u-1"]).2 _ pods planUpdate_pod compile_pods).2
  have hselected : ([pod "u-1"].filter fun s =>
      !s.createdBy (Owner.watch "w-uid" "w") && pods.accepts s) = [pod "u-1"] := rfl
  rw [hselected] at h
  exact h

open UidPatch in
/-- A patch of the uid is not rejected, and what it returns is not the same resource. -/
theorem planUpdate_changes_uid :
    ∃ plan u, planUpdate Settings.default threeWay (Owner.watch "w-uid" "w") newUid
        (Selector.ofKind "Pod") [pod "u-1"] = .ok plan ∧
      u ∈ plan.explicit ∧ MergesTo threeWay newUid (pod "u-1") u ∧
      u.sameIdentity (pod "u-1") = false := by
  refine ⟨_, pod "u-2", planUpdate_pod, List.mem_singleton_self _, mergesTo_pod, ?_⟩
  decide +kernel

end Reconciler
