import Reconciler.Proofs.Plan.ThreeWay
import Reconciler.Proofs.Plan.Update
import Reconciler.Proofs.Resource.Access
import Reconciler.Proofs.Resource.Settling

namespace Reconciler

open Wire
open Document (patched mergedMembers)

/-!
# Updates that are repeated

Between two updates a resource is read and written again, and its document need not survive
that: members of the metadata are dropped and timestamps are cut.  What the same patch makes
of the resource is the same resource nevertheless.

* `MergesTo.again` — an updated resource is patched to itself;
* `planUpdate_again` — a second update returns the resources that it selects.
-/

/-! ### The patched document -/

namespace Resource

/-- The other members of a resource that was read from a sorted document. -/
theorem wellFormed_get?_data {d : Document} {r : Resource} (hd : d.WellFormed)
    (h : Resource.decode d = .ok r) (k : String) :
    ∀ x ∈ Entries.get? k r.data, x.WellFormed := by
  intro x hx
  obtain ⟨members, rfl, -⟩ := decode_eq_ok.mp h
  rw [get?_data_of_decode h] at hx
  split at hx
  · simp at hx
  · exact hd.2.get? hx

/-- A part of a resource is patched as it is written. -/
theorem get?_patch_of_typed {d : Document} {r : Resource} (h : Resource.decode d = .ok r)
    (patch : List (String × Document)) {k : String} (hk : typedNames.contains k = true) :
    Entries.get? k (mergedMembers r.members (.obj patch) patch) =
      patched (Entries.get? k r.typedMembers) (Entries.get? k patch) := by
  rw [Document.get?_patch, (separate_of_decode h).get?_members hk]

/-- Another member of a resource is patched as it was read. -/
theorem get?_patch_of_not_typed (r : Resource) (patch : List (String × Document)) {k : String}
    (hk : typedNames.contains k = false) :
    Entries.get? k (mergedMembers r.members (.obj patch) patch) =
      patched (Entries.get? k r.data) (Entries.get? k patch) := by
  rw [Document.get?_patch, get?_members_of_not_typed hk]

/-- What the patch has made of the other members it leaves when it is merged again. -/
theorem filter_patch_again {patch : List (String × Document)} {d : Document} {r u : Resource}
    (hd : d.WellFormed) (hr : Resource.decode d = .ok r) (hpatch : (Document.obj patch).WellFormed)
    (hu : Resource.decode (.obj (mergedMembers r.members (.obj patch) patch)) = .ok u) :
    (mergedMembers u.members (.obj patch) patch).filter (fun e => !typedNames.contains e.1) =
      (mergedMembers r.members (.obj patch) patch).filter fun e => !typedNames.contains e.1 := by
  have hsecond := Document.sorted_patch u.sorted_members patch
  have hfirst := Document.sorted_patch r.sorted_members patch
  refine Entries.ext (List.Pairwise.filter _ hsecond) (List.Pairwise.filter _ hfirst) fun k => ?_
  rw [Entries.get?_filter_key k fun k => !typedNames.contains k,
    Entries.get?_filter_key k fun k => !typedNames.contains k]
  cases hk : typedNames.contains k with
  | true => rfl
  | false =>
    have hp : ∀ q ∈ Entries.get? k patch, q.WellFormed := fun q hq => hpatch.2.get? hq
    -- Where the second patch meets what the first one has left.
    rw [get?_patch_of_not_typed u patch hk, get?_data_of_decode hu, hk,
      get?_patch_of_not_typed r patch hk]
    exact Document.patched_patched (wellFormed_get?_data hd hr k) hp

end Resource

/-! ### One patch after the other -/

/-- A resource that was read from a sorted document is patched to one that the same patch
    leaves as it is. -/
theorem MergesTo.again {patch d : Document} {r u : Resource} (hd : d.WellFormed)
    (hr : Resource.decode d = .ok r) (hpatch : patch.WellFormed)
    (h : MergesTo threeWay patch r u) : MergesTo threeWay patch u u := by
  obtain ⟨m, hmerge, hu⟩ := h
  obtain ⟨-, ⟨ps, rfl⟩, rfl⟩ := threeWay_eq_ok.mp hmerge
  rw [Resource.encode_eq, Document.merge_obj] at hu
  obtain ⟨first, hfirst, hapiVersion, hkind, hmetadata, hdata⟩ := Resource.decode_eq_ok.mp hu
  obtain rfl := Document.obj.inj hfirst
  -- No null reads as a typed part, so each part has been read from a value.
  have hstring : ∀ d s, string d = .ok s → d.isNull = false := by
    intro d s hs
    rw [string_eq_ok.mp hs]
    rfl
  have hmember : ∀ d m, Metadata.decode d = .ok m → d.isNull = false := by
    intro d m hm
    obtain ⟨members, rfl, -⟩ := Metadata.decode_eq_ok.mp hm
    rfl
  refine ⟨_, threeWay_obj u.members (.obj ps) ps, ?_⟩
  rw [Document.merge_obj, Resource.decode_eq_ok]
  refine ⟨_, rfl, ?apiVersion, ?kind, ?metadata, ?data⟩
  case apiVersion =>
    exact (settles_string _).reads_withDefault hstring (Resource.get?_patch_of_typed hr ps rfl)
      (Resource.get?_patch_of_typed hu ps rfl) hapiVersion
  case kind =>
    exact (settles_string _).reads_withDefault hstring (Resource.get?_patch_of_typed hr ps rfl)
      (Resource.get?_patch_of_typed hu ps rfl) hkind
  -- Of the typed parts only the metadata is patched inside.
  case metadata =>
    have hp : ∀ q ∈ Entries.get? "metadata" ps, q.WellFormed := fun q hq => hpatch.2.get? hq
    exact (Metadata.settles hp).reads_withDefault hmember
      (Resource.get?_patch_of_typed hr ps rfl) (Resource.get?_patch_of_typed hu ps rfl) hmetadata
  case data => rw [Resource.filter_patch_again hd hr hpatch hu, hdata]

/-- Resources that are patched to themselves are returned as they are. -/
theorem eq_of_forall₂_mergesTo {merger : Merger} {patch : Document} {sources us : List Resource}
    (h : List.Forall₂ (fun s u => MergesTo merger patch s u ∧ u.id = s.id) sources us)
    (hself : ∀ s ∈ sources, MergesTo merger patch s s) : us = sources := by
  induction h with
  | nil => rfl
  | cons hmerges _ ih =>
    rw [List.forall_mem_cons] at hself
    rw [hmerges.1.unique hself.1, ih hself.2]

/-- An update with the same patch, of resources that an update has returned, succeeds and
    returns those that its target selects as they are. -/
theorem planUpdate_again (settings settings' : Settings) (watch watch' : Owner) (patch : Document)
    (target target' : Selector) (observed later : List Resource) (plan : UpdatePlan)
    (selector : CompiledSelector)
    (hobserved : ∀ r ∈ observed, ∃ d : Document, d.WellFormed ∧ Resource.decode d = .ok r)
    (hpatch : patch.WellFormed)
    (h : planUpdate settings threeWay watch patch target observed = .ok plan)
    (hlater : ∀ u ∈ later, u ∈ plan.desired ∨ u ∈ plan.explicit)
    (hselector : target'.compile = .ok selector) :
    ∃ again, planUpdate settings' threeWay watch' patch target' later = .ok again ∧
      again.desired = (later.filter fun u => u.createdBy watch' && selector.accepts u) ∧
      again.explicit = (later.filter fun u => !u.createdBy watch' && selector.accepts u) := by
  obtain ⟨selector₀, -, hselector₀, -⟩ := planUpdate_eq_ok.mp h
  -- Each later resource was returned by the first update, and so a second patch leaves it.
  have hagain : ∀ u ∈ later, MergesTo threeWay patch u u := by
    intro u hu
    obtain ⟨r, hr, hmerges⟩ : ∃ r ∈ observed, MergesTo threeWay patch r u := by
      rcases hlater u hu with hu | hu
      · obtain ⟨r, hr, -, hmerges⟩ := (mem_desired_of_planUpdate hselector₀ h).mp hu
        exact ⟨r, hr, hmerges⟩
      · obtain ⟨r, hr, -, hmerges⟩ := (mem_explicit_of_planUpdate hselector₀ h).mp hu
        exact ⟨r, hr, hmerges⟩
    obtain ⟨d, hd, hdecode⟩ := hobserved r hr
    exact hmerges.again hd hdecode hpatch
  obtain ⟨again, h'⟩ : ∃ again, planUpdate settings' threeWay watch' patch target' later =
      .ok again :=
    exists_planUpdate_eq_ok.mpr ⟨selector, hselector, fun u hu _ => ⟨u, hagain u hu, rfl⟩⟩
  obtain ⟨hdesired, hexplicit⟩ := forall₂_planUpdate hselector h'
  have hselected : ∀ (p : Resource → Bool), ∀ u ∈ later.filter p, MergesTo threeWay patch u u :=
    fun p u hu => hagain u (List.mem_of_mem_filter hu)
  exact ⟨again, h', eq_of_forall₂_mergesTo hdesired (hselected _),
    eq_of_forall₂_mergesTo hexplicit (hselected _)⟩

namespace RepeatedPatch

/-- A pod with a label. -/
def podDocument : Document :=
  .obj [("apiVersion", .str "v1"), ("kind", .str "Pod"),
    ("metadata", .obj [("labels", .obj [("app", .str "web")]), ("name", .str "web")]),
    ("spec", .obj [("replicas", .nat 1)])]

/-- A timestamp with a fraction, a member that is not known and one that is null. -/
def patch : Document :=
  .obj [("metadata", .obj [("clusterName", .str "east"),
      ("creationTimestamp", .str "2024-05-01T10:00:00.25Z"), ("generateName", .null),
      ("labels", .obj [("tier", .str "back")])]),
    ("spec", .obj [("replicas", .nat 2)])]

/-- The pod as it is read. -/
def pod : Resource :=
  ⟨"v1", "Pod",
    { Metadata.empty with labels := some ⟨[("app", "web")], by decide⟩, name := some "web" },
    [("spec", .obj [("replicas", .nat 1)])]⟩

/-- The patched pod, whose written timestamp has no fraction. -/
def updated : Resource :=
  ⟨"v1", "Pod",
    { Metadata.empty with
      creationTimestamp := (Timestamp.parse "2024-05-01T10:00:00.25Z").toOption
      labels := some ⟨[("app", "web"), ("tier", "back")], by decide⟩
      name := some "web" },
    [("spec", .obj [("replicas", .nat 2)])]⟩

/-- A watch that has not created the pod. -/
def watch : Owner := Owner.watch "w-uid" "w"

theorem wellFormed : podDocument.WellFormed ∧ patch.WellFormed := by decide +kernel

theorem decode_pod : Resource.decode podDocument = .ok pod := rfl

theorem mergesTo_updated : MergesTo threeWay patch pod updated := ⟨_, rfl, rfl⟩

/-- The pod is returned beside those of the watch. -/
theorem exists_planUpdate :
    ∃ plan, planUpdate Settings.default threeWay watch patch (Selector.ofKind "Pod") [pod] =
      .ok plan ∧ updated ∈ plan.explicit := by
  obtain ⟨plan, hplan⟩ : ∃ plan, planUpdate Settings.default threeWay watch patch
      (Selector.ofKind "Pod") [pod] = .ok plan :=
    exists_planUpdate_eq_ok.mpr ⟨UidPatch.pods, UidPatch.compile_pods, fun s hs _ => by
      rw [List.mem_singleton.mp hs]
      exact ⟨updated, mergesTo_updated, rfl⟩⟩
  exact ⟨plan, hplan, (mem_explicit_of_planUpdate UidPatch.compile_pods hplan).mpr
    ⟨pod, List.mem_singleton_self _, ⟨rfl, rfl⟩, mergesTo_updated⟩⟩

end RepeatedPatch

open RepeatedPatch in
/-- Writing the updated pod drops one member and the fraction, and the same patch leaves the
    pod as it is. -/
theorem planUpdate_again_pod :
    (podDocument.WellFormed ∧ Resource.decode podDocument = .ok pod ∧ patch.WellFormed) ∧
      updated.encode.walk [.key "metadata", .key "clusterName"] = none ∧
      updated.encode.walk [.key "metadata", .key "creationTimestamp"] =
        some (.str "2024-05-01T10:00:00Z") ∧
      ∃ plan again, planUpdate Settings.default threeWay watch patch (Selector.ofKind "Pod")
          [pod] = .ok plan ∧ updated ∈ plan.explicit ∧
        planUpdate Settings.default threeWay watch patch (Selector.ofKind "Pod") [updated] =
          .ok again ∧ again.desired = [] ∧ again.explicit = [updated] := by
  obtain ⟨hd, hpatch⟩ := wellFormed
  obtain ⟨plan, hplan, hupdated⟩ := exists_planUpdate
  have hobserved : ∀ r ∈ [pod], ∃ d : Document, d.WellFormed ∧ Resource.decode d = .ok r := by
    intro r hr
    rw [List.mem_singleton.mp hr]
    exact ⟨podDocument, hd, decode_pod⟩
  have hlater : ∀ u ∈ [updated], u ∈ plan.desired ∨ u ∈ plan.explicit := by
    intro u hu
    rw [List.mem_singleton.mp hu]
    exact .inr hupdated
  obtain ⟨again, hagain, hdesired, hexplicit⟩ :=
    planUpdate_again Settings.default Settings.default watch watch patch (Selector.ofKind "Pod")
      (Selector.ofKind "Pod") [pod] [updated] plan UidPatch.pods hobserved hpatch hplan hlater
      UidPatch.compile_pods
  exact ⟨⟨hd, decode_pod, hpatch⟩, rfl, rfl, plan, again, hplan, hupdated, hagain, hdesired,
    hexplicit⟩

end Reconciler
