import Reconciler.Proofs.Plan.Difference
import Reconciler.Proofs.Plan.Outcome
import Reconciler.Proofs.Resource.Frame

namespace Reconciler

open Document (mergedMembers)

/-!
# What an update leaves and what it sets

A resource is written, patched and read again.  Whatever becomes of the rest of its document on
the way, what the patch does not mention is there as before, and what the patch sets beside the
metadata is there as the patch has it.  An array is no exception to the latter: it is replaced as
a whole, and with it what the patch does not mention of its items.

* `Resource.walk_of_merged` — beside the metadata there is what the merge has made;
* `Resource.walk_of_leaves` — what the patch leaves is there as before;
* `Resource.Framed` — both, for the values at field paths;
* `planUpdate_frame` — every resource that an update returns;
* `planUpdate_replaces_items` — a member of an item that the patch does not mention.
-/

namespace Resource

section Merged

variable {s u : Resource} {ps : List (String × Document)} {d : Document}

/-- Beside the metadata there is what the merge has made. -/
theorem walk_of_merged (hs : Resource.decode d = .ok s)
    (hu : Resource.decode (.obj (mergedMembers s.members (.obj ps) ps)) = .ok u) {k : String}
    (hk : k ≠ "metadata") (rest : List Segment) :
    u.encode.walk (.key k :: rest) =
      (Document.merge s.encode (.obj ps) (.obj ps)).walk (.key k :: rest) := by
  rw [encode_eq, encode_eq, Document.merge_obj, Document.walk, Document.walk,
    get?_members_of_merged hs hu hk]

/-- What the patch leaves is there as before, also after the metadata was read. -/
theorem walk_of_leaves (hs : Resource.decode d = .ok s) (hpatch : (Document.obj ps).WellFormed)
    (hu : Resource.decode (.obj (mergedMembers s.members (.obj ps) ps)) = .ok u)
    {steps : List Segment} (hleaves : (Document.obj ps).Leaves steps) :
    u.encode.walk steps = s.encode.walk steps := by
  cases steps with
  | nil => exact hleaves.elim
  | cons step rest =>
    cases step with
    | index i => exact hleaves.elim
    | key k =>
      -- Only the metadata is read, and not taken over from the merged document.
      by_cases hk : k = "metadata"
      · subst hk
        obtain ⟨members, -, hpatched, hmetadata⟩ := exists_metadata_of_merged hs hu
        have hsame : u.metadata.encode.walk rest = s.metadata.encode.walk rest :=
          Metadata.walk_encode_of_leaves (noNullFields_of_decode hs)
            (fun q hq => hpatch.2.get? hq) hpatched hmetadata (Document.leaves_obj.mp hleaves)
        rw [encode_eq, encode_eq, Document.walk, Document.walk,
          (separate_of_decode hu).get?_members rfl, (separate_of_decode hs).get?_members rfl]
        exact hsame
      · rw [walk_of_merged hs hu hk, Document.walk_merge_of_leaves hleaves]

end Merged

/-- The resource `u` has what `s` has at every path that stops in the patch at an object without
    the next key, after nothing but keys.  Beside the metadata it has what the patch has at a
    path, unless that is an object. -/
structure Framed (patch : Document) (s u : Resource) : Prop where
  kept : ∀ (q : FieldPath) (keys : List String),
    patch.StopsAfter (keys.map .key) q.segments → u.getPath? q = s.getPath? q
  set : ∀ (q : FieldPath) (x : Document), q.head ≠ .key "metadata" →
    patch.walk q.segments = some x → x.kind ≠ .object → u.getPath? q = some x

end Resource

/-- A patch that is merged into a resource changes nothing beside what it mentions. -/
theorem MergesTo.framed {patch d : Document} {s u : Resource} (hs : Resource.decode d = .ok s)
    (hpatch : patch.WellFormed) (h : MergesTo threeWay patch s u) : s.Framed patch u := by
  obtain ⟨m, hmerge, hu⟩ := h
  obtain ⟨-, ⟨ps, rfl⟩, rfl⟩ := threeWay_eq_ok.mp hmerge
  have hmerged : Resource.decode (.obj (mergedMembers s.members (.obj ps) ps)) = .ok u := by
    rw [Resource.encode_eq, Document.merge_obj] at hu
    exact hu
  refine ⟨fun q keys hstops => ?_, fun q x hhead hx hkind => ?_⟩
  · -- A path that the patch leaves.
    rw [Resource.getPath?_eq hu, Resource.getPath?_eq hs]
    exact Resource.walk_of_leaves hs hpatch hmerged (Document.leaves_iff.mpr ⟨keys, hstops⟩)
  · -- A path at which the patch sets a value that is no object.
    rw [Resource.getPath?_eq hu, FieldPath.get?]
    rw [FieldPath.segments] at hx ⊢
    cases hk : q.head with
    | index i =>
      rw [hk] at hx
      cases hx
    | key k =>
      rw [hk] at hx hhead
      have hk : k ≠ "metadata" := fun h => hhead (congrArg Segment.key h)
      rw [Resource.walk_of_merged hs hmerged hk]
      exact Document.walk_merge_of_walk (Document.members?_eq_none.mpr hkind) hx _

/-! ### Updates -/

/-- Of every resource that an update returns, the patch leaves what it does not mention, and sets
    what it holds beside the metadata. -/
theorem planUpdate_frame (settings : Settings) (watch : Owner) (patch : Document)
    (target : Selector) (observed : List Resource) (plan : UpdatePlan)
    (hobserved : ∀ s ∈ observed, ∃ d, Resource.decode d = .ok s) (hpatch : patch.WellFormed)
    (h : planUpdate settings threeWay watch patch target observed = .ok plan) :
    List.Forall₂ (fun s u => s.Framed patch u)
        ((target.selected observed).filter fun s => s.createdBy watch) plan.desired ∧
      List.Forall₂ (fun s u => s.Framed patch u)
        ((target.selected observed).filter fun s => !s.createdBy watch) plan.explicit := by
  obtain ⟨hdesired, hexplicit⟩ := forall₂_selected_of_planUpdate h
  -- What holds of one merge holds of both lists.
  have hframed : ∀ {p : Resource → Bool} {us : List Resource},
      List.Forall₂ (fun s u => MergesTo threeWay patch s u ∧ u.id = s.id)
          ((target.selected observed).filter p) us →
        List.Forall₂ (fun s u => s.Framed patch u) ((target.selected observed).filter p) us := by
    intro p us hmerges
    have hread : ∀ s ∈ (target.selected observed).filter p, ∃ d, Resource.decode d = .ok s :=
      fun s hs => hobserved s (List.mem_of_mem_filter (List.mem_of_mem_filter hs))
    refine ((List.forall₂_and_left _ _).mpr ⟨hread, hmerges⟩).imp ?_
    rintro s u ⟨⟨d, hs⟩, hmerge, -⟩
    exact hmerge.framed hs hpatch
  exact ⟨hframed hdesired, hframed hexplicit⟩

namespace PatchedContainers

/-- A pod of one container, on a node. -/
def document : Document :=
  .obj [("apiVersion", .str "v1"), ("kind", .str "Pod"), ("metadata", .obj [("name", .str "web")]),
    ("spec", .obj [("containers", .arr [.obj [("image", .str "web:1"), ("name", .str "web")]]),
      ("nodeName", .str "node-1")])]

/-- The pod as it is read. -/
def pod : Resource :=
  ⟨"v1", "Pod", { Metadata.empty with name := some "web" },
    [("spec", .obj [("containers", .arr [.obj [("image", .str "web:1"), ("name", .str "web")]]),
      ("nodeName", .str "node-1")])]⟩

/-- A patch of the containers that says nothing of an image. -/
def patch : Document :=
  .obj [("spec", .obj [("containers", .arr [.obj [("name", .str "web")]])])]

/-- The pod after that patch. -/
def updated : Resource :=
  ⟨"v1", "Pod", { Metadata.empty with name := some "web" },
    [("spec", .obj [("containers", .arr [.obj [("name", .str "web")]]),
      ("nodeName", .str "node-1")])]⟩

/-- The merge of the two. -/
def merged : Updated :=
  ⟨false, updated, ⟨pod.id.display, updated.encode.diff pod.encode⟩⟩

/-- The path of the node. -/
def nodeName : FieldPath := ⟨"spec.nodeName", .key "spec", [.key "nodeName"]⟩

/-- The path of the image of the container. -/
def image : FieldPath :=
  ⟨"spec.containers[0].image", .key "spec", [.key "containers", .index 0, .key "image"]⟩

theorem decode_document : Resource.decode document = .ok pod := rfl

theorem wellFormed_patch : patch.WellFormed := by decide +kernel

/-- One pod is merged with the patch, and it is owned by nobody. -/
theorem planUpdate_patch :
    planUpdate Settings.default threeWay (Owner.watch "w-uid" "w") patch (Selector.ofKind "Pod")
      [pod] = .ok (.ofUpdates Settings.default [merged]) := by
  have hmerged : updateOne threeWay (Owner.watch "w-uid" "w") patch pod = .ok merged :=
    updateOne_eq_ok.mpr ⟨updated.encode, rfl, rfl, rfl, rfl, rfl⟩
  exact planUpdate_eq_ok.mpr
    ⟨UidPatch.pods, [merged], UidPatch.compile_pods, .cons hmerged .nil, rfl⟩

end PatchedContainers

open PatchedContainers in
/-- The node of the pod is kept, next to its containers. -/
theorem planUpdate_frame_containers :
    (Resource.decode document = .ok pod ∧ patch.WellFormed) ∧
      pod.Framed patch updated ∧ updated.getPath? nodeName = some (.str "node-1") := by
  have hobserved : ∀ s ∈ [pod], ∃ d, Resource.decode d = .ok s :=
    List.forall_mem_singleton.mpr ⟨document, decode_document⟩
  obtain ⟨-, hframed⟩ :=
    planUpdate_frame _ _ _ _ _ _ hobserved wellFormed_patch planUpdate_patch
  have hselected : ((Selector.ofKind "Pod").selected [pod]).filter
      (fun s => !s.createdBy (Owner.watch "w-uid" "w")) = [pod] := by
    rw [Selector.selected_of_compile UidPatch.compile_pods]
    rfl
  rw [hselected] at hframed
  have hpod : pod.Framed patch updated := (List.forall₂_cons.mp hframed).1
  have hstops : patch.StopsAfter (["spec"].map .key) nodeName.segments :=
    ⟨"nodeName", [], _, rfl, rfl, rfl⟩
  exact ⟨⟨decode_document, wellFormed_patch⟩, hpod, (hpod.kept nodeName ["spec"] hstops).trans rfl⟩

open PatchedContainers in
/-- The image of the container is gone, although the patch does not mention it: the array that it
    was in is replaced. -/
theorem planUpdate_replaces_items :
    (Resource.decode document = .ok pod ∧ patch.WellFormed) ∧
      (∃ plan, planUpdate Settings.default threeWay (Owner.watch "w-uid" "w") patch
        (Selector.ofKind "Pod") [pod] = .ok plan ∧ plan.explicit = [updated]) ∧
      FieldPath.parse "spec.containers[0].image" = .ok image ∧
      patch.StopsAfter [.key "spec", .key "containers", .index 0] image.segments ∧
      updated.getPath? image ≠ pod.getPath? image := by
  have hparse : FieldPath.parse "spec.containers[0].image" = .ok image := by decide +kernel
  have hstops : patch.StopsAfter [.key "spec", .key "containers", .index 0] image.segments :=
    ⟨"image", [], _, rfl, rfl, rfl⟩
  have hbefore : pod.getPath? image = some (.str "web:1") := rfl
  have hafter : updated.getPath? image = none := rfl
  refine ⟨⟨decode_document, wellFormed_patch⟩, ⟨_, planUpdate_patch, rfl⟩, hparse, hstops, ?_⟩
  rw [hbefore, hafter]
  exact nofun

end Reconciler
