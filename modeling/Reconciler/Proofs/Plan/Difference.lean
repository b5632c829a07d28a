import Reconciler.Proofs.Plan.Repetition
import Reconciler.Proofs.Resource.Difference

namespace Reconciler

open Wire
open Document (patched mergedMembers stripMember strippedMembers)

/-!
# Differences that updates report

An update reports the difference that the patch has made of the document of a resource, and it
returns the resource that this document reads as.  The difference of the resources themselves is
never larger, and may be smaller: members of the metadata that do not survive the reading count
for the patch all the same.

* `Resource.within_diff` — the difference of a merged document, and that of the resource;
* `UpdateInfo.Describes` — what an entry tells of a returned resource;
* `planUpdate_diff` — the entries of a whole update;
* `planUpdate_reports_dropped` — a resource that is returned as it was, with an addition.
-/

/-! ### One merge -/

namespace Resource

/-- A patched member is there, and so it is read and does not take its value by default. -/
theorem exists_get?_of_reads {α : Type} {value : Decoder α} {absent x : α} {name : String}
    {members : List (String × Document)} {o : Document} {q : Option Document}
    (hget : Entries.get? name members = patched (some o) q)
    (h : (withDefault name value absent).Reads members x) :
    ∃ d, Entries.get? name members = some d ∧ value d = .ok x := by
  rcases Fields.reads_withDefault.mp h with ⟨hnone, -⟩ | hread
  · rw [hget] at hnone
    cases q <;> cases hnone
  · exact hread

section Merged

variable {s u : Resource} {ps : List (String × Document)} {d : Document}

/-- Beside the metadata a merged document is that of the resource that it reads as. -/
theorem get?_members_of_merged (hs : Resource.decode d = .ok s)
    (hu : Resource.decode (.obj (mergedMembers s.members (.obj ps) ps)) = .ok u) {k : String}
    (hk : k ≠ "metadata") :
    Entries.get? k u.members = Entries.get? k (mergedMembers s.members (.obj ps) ps) := by
  obtain ⟨_, hmembers, hversion, hkind, -⟩ := Resource.decode_eq_ok.mp hu
  obtain rfl := Document.obj.inj hmembers
  cases htyped : typedNames.contains k with
  | true =>
    have hnames : k = "apiVersion" ∨ k = "kind" := by simpa [typedNames, hk] using htyped
    rw [(separate_of_decode hu).get?_members htyped]
    obtain rfl | rfl := hnames
    · obtain ⟨x, hx, hread⟩ := exists_get?_of_reads (get?_patch_of_typed hs ps rfl) hversion
      rw [hx, string_eq_ok.mp hread]
      rfl
    · obtain ⟨x, hx, hread⟩ := exists_get?_of_reads (get?_patch_of_typed hs ps rfl) hkind
      rw [hx, string_eq_ok.mp hread]
      rfl
  | false =>
    rw [get?_members_of_not_typed htyped, get?_data_of_decode hu, htyped]
    rfl

/-- The metadata is patched as it was written, and the patched metadata is read. -/
theorem exists_metadata_of_merged (hs : Resource.decode d = .ok s)
    (hu : Resource.decode (.obj (mergedMembers s.members (.obj ps) ps)) = .ok u) :
    ∃ members, Entries.get? "metadata" (mergedMembers s.members (.obj ps) ps) =
        some (.obj members) ∧
      patched (some s.metadata.encode) (Entries.get? "metadata" ps) = some (.obj members) ∧
      Metadata.decode (.obj members) = .ok u.metadata := by
  obtain ⟨_, hmembers, -, -, hmetadata, -⟩ := Resource.decode_eq_ok.mp hu
  obtain rfl := Document.obj.inj hmembers
  have hget : Entries.get? "metadata" (mergedMembers s.members (.obj ps) ps) =
      patched (some s.metadata.encode) (Entries.get? "metadata" ps) :=
    get?_patch_of_typed hs ps rfl
  obtain ⟨x, hx, hread⟩ := exists_get?_of_reads hget hmetadata
  obtain ⟨members, rfl, -⟩ := Metadata.decode_eq_ok.mp hread
  exact ⟨members, hx, hget ▸ hx, hread⟩

/-- What is compared of the metadata of a resource that was read. -/
theorem get?_strippedMembers_metadata {r : Resource} (h : r.Separate) :
    Entries.get? "metadata" (strippedMembers r.members) =
      some (stripMember "metadata" r.metadata.encode) := by
  rw [Document.get?_strippedMembers, if_neg (by decide), h.get?_members rfl]
  rfl

/-- The difference of an updated resource is never larger than that of the merged document, and
    they are the same when the resource keeps the metadata that the patch sets. -/
theorem within_diff {patch m : Document} (hs : Resource.decode d = .ok s)
    (hpatch : patch.WellFormed) (hm : threeWay s.encode patch patch = .ok m)
    (hu : Resource.decode m = .ok u) :
    (u.encode.diff s.encode).Within (m.diff s.encode) ∧
      (m.diff s.encode = u.encode.diff s.encode ↔
        s.metadata.Keeps (patch.member? "metadata") u.metadata) := by
  obtain ⟨-, ⟨ps, rfl⟩, rfl⟩ := threeWay_eq_ok.mp hm
  rw [encode_eq s, Document.merge_obj] at hu ⊢
  obtain ⟨members, hget, hpatched, hmetadata⟩ := exists_metadata_of_merged hs hu
  have hp : ∀ q ∈ Entries.get? "metadata" ps, q.WellFormed := fun q hq => hpatch.2.get? hq
  obtain ⟨hwithinMetadata, heqMetadata⟩ := Metadata.within_kept hp hpatched hmetadata
  have hmerged := Document.sorted_patch s.sorted_members ps
  -- Server fields are stripped on both sides before they are compared.
  have hstripped : Entries.get? "metadata"
      (strippedMembers (mergedMembers s.members (.obj ps) ps)) =
        some (stripMember "metadata" (.obj members)) := by
    rw [Document.get?_strippedMembers, if_neg (by decide), hget]
    rfl
  have hs' := get?_strippedMembers_metadata (separate_of_decode hs)
  have hu' := get?_strippedMembers_metadata (separate_of_decode hu)
  -- Reading loses something of the metadata alone.
  have hagree : ∀ k, k ≠ "metadata" → Entries.get? k (strippedMembers u.members) =
      Entries.get? k (strippedMembers (mergedMembers s.members (.obj ps) ps)) := by
    intro k hk
    rw [Document.get?_strippedMembers, Document.get?_strippedMembers,
      get?_members_of_merged hs hu hk]
  obtain ⟨hwithin, heq⟩ := Document.within_memberDiff_obj_of_eq_off
    (Document.sorted_strippedMembers s.sorted_members) (Document.sorted_strippedMembers hmerged)
    (Document.sorted_strippedMembers u.sorted_members) hagree
    (by rw [hs', hu', hstripped]; exact hwithinMetadata)
  rw [hs', hu', hstripped] at heq
  rw [encode_eq u, Document.diff_obj s.sorted_members hmerged,
    Document.diff_obj s.sorted_members u.sorted_members]
  exact ⟨hwithin, heq.trans heqMetadata⟩

end Merged

end Resource

/-! ### Entries of a report -/

/-- The entry names the resource `s`, and its difference is that of the document which `s` is
    merged to and `u` is read from.  The difference of `u` from `s` is within it, and is the same
    when `u` keeps the metadata that the patch sets, as it does when the patch sets none. -/
structure UpdateInfo.Describes (info : UpdateInfo) (patch : Document) (s u : Resource) : Prop where
  resource : info.resource = s.id.display
  merges : MergesTo threeWay patch s u
  within : (u.encode.diff s.encode).Within info.diff
  exact : info.diff = u.encode.diff s.encode ↔
    s.metadata.Keeps (patch.member? "metadata") u.metadata
  /-- An entry without a difference is of a resource without one. -/
  unchanged : info.diff = .zero → u.encode.diff s.encode = .zero
  untouched : patch.member? "metadata" = none → info.diff = u.encode.diff s.encode

variable {settings : Settings} {watch : Owner} {patch : Document} {target : Selector}
  {observed : List Resource}

/-- The report of one update describes what the update has changed. -/
theorem describes_of_updateOne {s : Resource} {d : Document} {u : Updated}
    (hs : Resource.decode d = .ok s) (hpatch : patch.WellFormed)
    (h : updateOne threeWay watch patch s = .ok u) : u.info.Describes patch s u.resource := by
  obtain ⟨m, hm, hu, -, -, hinfo⟩ := updateOne_eq_ok.mp h
  obtain ⟨hwithin, hexact⟩ := Resource.within_diff hs hpatch hm hu
  rw [hinfo]
  refine ⟨rfl, ⟨m, hm, hu⟩, hwithin, hexact, fun hzero => ?_, fun hnone => ?_⟩
  · have hnothing : m.diff s.encode = 0 := hzero
    rw [hnothing] at hwithin
    exact hwithin.eq_zero
  · -- Where the patch sets nothing, there is nothing to be kept.
    refine hexact.mpr fun k x _ hx => ?_
    rw [hnone] at hx
    cases hx

/-- The entries of the merges with a given owner, each beside the resource that it describes. -/
theorem forall₂_describes {sources : List Resource} {updates : List Updated}
    (hsources : ∀ s ∈ sources, ∃ d, Resource.decode d = .ok s) (hpatch : patch.WellFormed)
    (h : List.Forall₂ (fun s u => updateOne threeWay watch patch s = .ok u) sources updates)
    (mine : Bool → Bool) :
    List.Forall₂ (fun s (e : Resource × UpdateInfo) => e.2.Describes patch s e.1)
      (sources.filter fun s => mine (s.createdBy watch))
      (((updates.filter fun u => mine u.owned).map (·.resource)).zip
        ((updates.filter fun u => mine u.owned).map (·.info))) := by
  rw [List.zip_map', List.forall₂_map_right_iff]
  have hread : ∀ s ∈ sources.filter fun s => mine (s.createdBy watch),
      ∃ d, Resource.decode d = .ok s := fun s hs => hsources s (List.mem_of_mem_filter hs)
  refine ((List.forall₂_and_left _ _).mpr ⟨hread, forall₂_filter_owned h mine⟩).imp ?_
  rintro s u ⟨⟨d, hs⟩, hu⟩
  exact describes_of_updateOne hs hpatch hu

/-- Where the settings list the entries of an update, there is one for each returned resource, in
    the same place, and it describes that resource. -/
theorem planUpdate_diff {plan : UpdatePlan} {selector : CompiledSelector}
    (hobserved : ∀ s ∈ observed, ∃ d, Resource.decode d = .ok s) (hpatch : patch.WellFormed)
    (hselector : target.compile = .ok selector)
    (h : planUpdate settings threeWay watch patch target observed = .ok plan) :
    (settings.categories.contains .desiredUpdate = true →
        plan.report.desiredInfo.length = plan.desired.length ∧
          List.Forall₂ (fun s (e : Resource × UpdateInfo) => e.2.Describes patch s e.1)
            (observed.filter fun s => s.createdBy watch && selector.accepts s)
            (plan.desired.zip plan.report.desiredInfo)) ∧
      (settings.categories.contains .explicitUpdate = true →
        plan.report.explicitInfo.length = plan.explicit.length ∧
          List.Forall₂ (fun s (e : Resource × UpdateInfo) => e.2.Describes patch s e.1)
            (observed.filter fun s => !s.createdBy watch && selector.accepts s)
            (plan.explicit.zip plan.report.explicitInfo)) := by
  obtain ⟨selector', updates, hselector', hmerges, rfl⟩ := planUpdate_eq_ok.mp h
  obtain rfl := ok_unique hselector hselector'
  have hsources : ∀ s ∈ observed.filter selector.accepts, ∃ d, Resource.decode d = .ok s :=
    fun s hs => hobserved s (List.mem_of_mem_filter hs)
  constructor
  · -- Each list of the report is made of the updates that its list of resources is made of.
    intro hlisted
    rw [UpdatePlan.desired_ofUpdates, UpdatePlan.desiredInfo_ofUpdates, listUpdates,
      if_pos hlisted, List.length_map, List.length_map, ← List.filter_filter]
    exact ⟨rfl, forall₂_describes hsources hpatch hmerges id⟩
  · intro hlisted
    rw [UpdatePlan.explicit_ofUpdates, UpdatePlan.explicitInfo_ofUpdates, listUpdates,
      if_pos hlisted, List.length_map, List.length_map, ← List.filter_filter]
    exact ⟨rfl, forall₂_describes hsources hpatch hmerges not⟩

namespace ListedPod

/-- A pod that no watch has created. -/
def document : Document :=
  .obj [("apiVersion", .str "v1"), ("kind", .str "Pod"),
    ("metadata", .obj [("name", .str "web")])]

/-- The pod as it is read. -/
def pod : Resource := ⟨"v1", "Pod", { Metadata.empty with name := some "web" }, []⟩

/-- A patch of a label and of a member beside the metadata. -/
def labelled : Document :=
  .obj [("metadata", .obj [("labels", .obj [("tier", .str "web")])]),
    ("spec", .obj [("replicas", .nat 2)])]

/-- The pod after that patch. -/
def updated : Resource :=
  ⟨"v1", "Pod",
    { Metadata.empty with
      labels := some ⟨[("tier", "web")], by decide⟩
      name := some "web" },
    [("spec", .obj [("replicas", .nat 2)])]⟩

/-- A patch of a member of the metadata that is not known. -/
def unknown : Document := .obj [("metadata", .obj [("clusterName", .str "east")])]

/-- Settings that list every entry. -/
def listing : Settings := { Settings.default with categories := .all }

theorem decode_document : Resource.decode document = .ok pod := rfl

/-- The update adds a label and a number of replicas, and it reports two additions. -/
theorem planUpdate_labelled :
    planUpdate listing threeWay (Owner.watch "w-uid" "w") labelled (Selector.ofKind "Pod")
      [pod] = .ok (.ofUpdates listing [⟨false, updated, "v1/Pod web", ⟨2, 0, 0⟩⟩]) := by
  have hupdated : updateOne threeWay (Owner.watch "w-uid" "w") labelled pod =
      .ok ⟨false, updated, "v1/Pod web", ⟨2, 0, 0⟩⟩ :=
    updateOne_eq_ok.mpr ⟨updated.encode, rfl, rfl, rfl, rfl, rfl⟩
  exact planUpdate_eq_ok.mpr
    ⟨UidPatch.pods, _, UidPatch.compile_pods, .cons hupdated .nil, rfl⟩

/-- The update reports one addition and returns the pod as it was. -/
theorem planUpdate_unknown :
    planUpdate listing threeWay (Owner.watch "w-uid" "w") unknown (Selector.ofKind "Pod")
      [pod] = .ok (.ofUpdates listing [⟨false, pod, "v1/Pod web", ⟨1, 0, 0⟩⟩]) := by
  have hupdated : updateOne threeWay (Owner.watch "w-uid" "w") unknown pod =
      .ok ⟨false, pod, "v1/Pod web", ⟨1, 0, 0⟩⟩ :=
    updateOne_eq_ok.mpr ⟨_, rfl, rfl, rfl, rfl, rfl⟩
  exact planUpdate_eq_ok.mpr
    ⟨UidPatch.pods, _, UidPatch.compile_pods, .cons hupdated .nil, rfl⟩

end ListedPod

open ListedPod in
/-- The entry of the labelled pod tells what was added to it. -/
theorem planUpdate_diff_labelled :
    (Resource.decode document = .ok pod ∧ labelled.WellFormed ∧
        listing.categories.contains .explicitUpdate = true) ∧
      (UpdateInfo.mk "v1/Pod web" ⟨2, 0, 0⟩).Describes labelled pod updated ∧
      updated.encode.diff pod.encode = ⟨2, 0, 0⟩ := by
  have hpatch : labelled.WellFormed := by decide +kernel
  have hobserved : ∀ s ∈ [pod], ∃ d, Resource.decode d = .ok s := by
    intro s hs
    rw [List.mem_singleton.mp hs]
    exact ⟨document, decode_document⟩
  obtain ⟨-, hexplicit⟩ :=
    planUpdate_diff hobserved hpatch UidPatch.compile_pods planUpdate_labelled
  obtain ⟨-, hentries⟩ := hexplicit rfl
  have hselected : ([pod].filter fun s =>
      !s.createdBy (Owner.watch "w-uid" "w") && UidPatch.pods.accepts s) = [pod] := rfl
  rw [hselected] at hentries
  exact ⟨⟨decode_document, hpatch, rfl⟩, (List.forall₂_cons.mp hentries).1, rfl⟩

open ListedPod in
/-- A patch of a member that is not known is reported as an addition, and the pod that is
    returned is the one before. -/
theorem planUpdate_reports_dropped :
    Resource.decode document = .ok pod ∧
      ∃ plan info, planUpdate listing threeWay (Owner.watch "w-uid" "w") unknown
          (Selector.ofKind "Pod") [pod] = .ok plan ∧
        plan.explicit = [pod] ∧ plan.report.explicitInfo = [info] ∧
        info.diff ≠ pod.encode.diff pod.encode := by
  refine ⟨decode_document, _, ⟨"v1/Pod web", ⟨1, 0, 0⟩⟩, planUpdate_unknown, rfl, rfl, ?_⟩
  decide +kernel

end Reconciler
