import Reconciler.Proofs.Plan.ThreeWay
import Reconciler.Proofs.Plan.Update
import Reconciler.Proofs.Resource.Provenance

namespace Reconciler

/-!
# When a merge keeps the marker of a watch

The marker of a created resource is one of its annotations, and a patch may write it or
drop it like any other member.

* `markerPath` — where the document of a resource has the marker;
* `KeepsMarker` — the patch leaves the marker of the resource, or writes the same one;
* `createdBy_of_mergesTo` — exactly then does the merged resource belong to the watch.
-/

/-- Where the document of a resource has the marker. -/
def markerPath : List Segment :=
  [.key "metadata", .key "annotations", .key Provenance.createdDueToWatch]

/-- The patch writes the marker of this uid, or it leaves the one that is there. -/
def KeepsMarker (patch : Document) (s : Resource) (uid : String) : Prop :=
  patch.walk markerPath = some (.str uid) ∨
    patch.Leaves markerPath ∧ s.encode.walk markerPath = some (.str uid)

variable {patch : Document} {s u : Resource} {watch : Owner}

/-- The merged resource belongs to the watch exactly when the patch keeps the marker. -/
theorem createdBy_of_mergesTo (hpatch : patch.WellFormed) (hs : s.encode.WellFormed)
    (huid : watch.uid ≠ "") (h : MergesTo threeWay patch s u) :
    u.createdBy watch = true ↔ KeepsMarker patch s watch.uid := by
  obtain ⟨d, hd, hu⟩ := h
  obtain ⟨-, -, rfl⟩ := threeWay_eq_ok.mp hd
  have hmerged : (Document.merge s.encode patch patch).WellFormed :=
    Document.wellFormed_merge _ _ _ hs hpatch
  have hwalk := Resource.walk_annotation_of_decode hmerged hu Provenance.createdDueToWatch
  have hstr : (Document.str watch.uid).members? = none := rfl
  rw [KeepsMarker, ← Document.walk_merge_eq_some hstr, markerPath, hwalk, Resource.createdBy_iff]
  simp [huid]

end Reconciler
