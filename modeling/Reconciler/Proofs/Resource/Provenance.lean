import Reconciler.Path.Access
import Reconciler.Proofs.Document.WellFormed
import Reconciler.Proofs.Wire.Reading
import Reconciler.Resource.Basic

namespace Reconciler

open Wire

/-!
# What the annotations of a resource record

* `Metadata.decode_eq_ok`, `Resource.decode_eq_ok` — what each part is read from;
* `Resource.walk_annotation_of_decode` — where a document holds the annotations of the
  resource that it reads as;
* `Resource.provenance?_eq_some`, `Resource.createdBy_iff` — the provenance and the owner,
  from the annotations;
* `Resource.annotation?_withProvenance`, `Resource.createdBy_withProvenance` — what a stamp
  leaves in the annotations, and the owner that they then tell.
-/

/-! ### Parts of a document -/

/-- Each member of metadata is read by itself. -/
theorem Metadata.decode_eq_ok {d : Document} {m : Metadata} :
    Metadata.decode d = .ok m ↔
      ∃ members, d = .obj members ∧
        (omittable "annotations" stringTable).Reads members m.annotations ∧
        (omittable "creationTimestamp" timestamp).Reads members m.creationTimestamp ∧
        (omittable "deletionGracePeriodSeconds" int64).Reads members
          m.deletionGracePeriodSeconds ∧
        (omittable "deletionTimestamp" timestamp).Reads members m.deletionTimestamp ∧
        (omittable "finalizers" (list string)).Reads members m.finalizers ∧
        (omittable "generateName" string).Reads members m.generateName ∧
        (omittable "generation" int64).Reads members m.generation ∧
        (omittable "labels" stringTable).Reads members m.labels ∧
        (omittable "managedFields" (list ManagedFields.decode)).Reads members m.managedFields ∧
        (omittable "name" string).Reads members m.name ∧
        (omittable "namespace" string).Reads members m.namespaceName ∧
        (omittable "ownerReferences" (list OwnerReference.decode)).Reads members
          m.ownerReferences ∧
        (omittable "resourceVersion" string).Reads members m.resourceVersion ∧
        (omittable "selfLink" string).Reads members m.selfLink ∧
        (omittable "uid" string).Reads members m.uid := by
  cases m
  -- The constructor is applied to one member after the other, so its arguments are read
  -- in the order of their names.
  simp only [decode, object_eq_ok, Fields.reads_seq, Fields.reads_map]
  simp [and_assoc]

/-- The typed parts of a resource are read by themselves, and the other members stay. -/
theorem Resource.decode_eq_ok {d : Document} {r : Resource} :
    Resource.decode d = .ok r ↔
      ∃ members, d = .obj members ∧
        (withDefault "apiVersion" string "").Reads members r.apiVersion ∧
        (withDefault "kind" string "").Reads members r.kind ∧
        (withDefault "metadata" Metadata.decode Metadata.empty).Reads members r.metadata ∧
        members.filter (fun e => !typedNames.contains e.1) = r.data := by
  cases r
  cases d with
  | obj members =>
    simp only [decode, mapError_eq_ok, ofObject_eq_ok, Fields.reads_seq, Fields.reads_map]
    simp [and_assoc]
  | _ => simp [decode]

/-! ### Annotations -/

/-- The values of a written table. -/
theorem walk_ofTable (t : Table String String) (k : String) :
    (ofTable t).walk [.key k] = (t.get? k).map .str := by
  rw [ofTable, Document.walk, Entries.get?_map_values, Table.get?]
  cases Entries.get? k t.entries <;> rfl

/-- The annotations of metadata, as values of their document. -/
theorem Metadata.walk_annotation_of_decode {d : Document} {m : Metadata} (hd : d.WellFormed)
    (h : Metadata.decode d = .ok m) (k : String) :
    d.walk [.key "annotations", .key k] = (m.annotations.bind (·.get? k)).map .str := by
  obtain ⟨members, rfl, hannotations, -⟩ := Metadata.decode_eq_ok.mp h
  rw [Document.walk]
  rcases Fields.reads_omittable.mp hannotations with ⟨hnull, hnone⟩ | ⟨d, hget, -, t, ht, hsome⟩
  · -- Nothing can be looked up in a null either.
    rw [← hnone]
    cases hget : Entries.get? "annotations" members with
    | none => rfl
    | some d =>
      rw [hget, Option.all_some] at hnull
      cases d with
      | null => rfl
      | _ => simp [Document.isNull] at hnull
  · rw [(stringTable_eq_ok (hd.2.get? hget)).mp ht] at hget
    rw [hget, ← hsome]
    exact walk_ofTable t k

namespace Resource

variable {r : Resource} {watch : Owner} {p : Provenance}

/-- The annotations of a resource, as values of its document. -/
theorem walk_annotation_of_decode {d : Document} (hd : d.WellFormed)
    (h : Resource.decode d = .ok r) (k : String) :
    d.walk [.key "metadata", .key "annotations", .key k] = (r.annotation? k).map .str := by
  obtain ⟨members, rfl, -, -, hmetadata, -⟩ := decode_eq_ok.mp h
  rw [Document.walk, annotation?]
  rcases Fields.reads_withDefault.mp hmetadata with ⟨hget, hempty⟩ | ⟨d, hget, hdecode⟩
  · rw [hget, ← hempty]
    rfl
  · rw [hget]
    exact Metadata.walk_annotation_of_decode (hd.2.get? hget) hdecode k

/-! ### Provenance -/

/-- The provenance in terms of the annotations. -/
theorem provenance?_eq (r : Resource) :
    r.provenance? =
      match r.annotation? Provenance.createdDueToWatch with
      | none => none
      | some uid =>
        if uid.isEmpty then none
        else
          some
            { watch := Owner.watch uid ((r.annotation? Provenance.watchName).getD "")
              run := (r.annotation? Provenance.runUid).map fun uid =>
                Owner.run uid ((r.annotation? Provenance.runName).getD "")
              taskKey := r.annotation? Provenance.taskKeyName } := by
  rw [provenance?]
  unfold annotation?
  cases r.metadata.annotations <;> rfl

/-- The watch of a resource is told by the marker alone, and an empty marker tells none. -/
theorem createdBy_iff :
    r.createdBy watch = true ↔
      r.annotation? Provenance.createdDueToWatch = some watch.uid ∧ watch.uid ≠ "" := by
  rw [createdBy, provenance?_eq]
  cases r.annotation? Provenance.createdDueToWatch with
  | none => simp
  | some uid =>
    -- An empty uid marks no owner.
    by_cases huid : uid = ""
    · subst huid
      constructor
      · intro h
        cases h
      · rintro ⟨h, hne⟩
        exact absurd (Option.some.inj h).symm hne
    · simp only [String.isEmpty_iff, huid, if_false, beq_iff_eq, Owner.watch, Option.some.injEq]
      constructor
      · rintro rfl
        exact ⟨rfl, huid⟩
      · exact And.left

/-! ### Changed copies -/

/-- Unfolding lemma: the name of a resource is none of its annotations. -/
@[simp] theorem createdBy_withName (name : String) :
    (r.withName name).createdBy watch = r.createdBy watch := rfl

/-- A name says nothing of where a resource comes from. -/
@[simp] theorem provenance?_withName (name : String) :
    (r.withName name).provenance? = r.provenance? := rfl

/-- The annotations of a stamp stand over those that were there. -/
theorem annotation?_withProvenance (r : Resource) (p : Provenance) (k : String) :
    (r.withProvenance p).annotation? k =
      (p.annotations.reverse.lookup k).or (r.annotation? k) := by
  show (p.annotations.foldl (fun t e => t.insert e.1 e.2) r.annotations).get? k = _
  rw [Table.get?_foldl_insert, annotations, annotation?]
  -- Without annotations a stamp starts from the empty table.
  cases r.metadata.annotations <;> rfl

/-- A stamp leaves the marker of its watch, whatever there was before. -/
theorem createdBy_withProvenance (r : Resource) {p : Provenance} (huid : p.watch.uid ≠ "") :
    (r.withProvenance p).createdBy p.watch = true := by
  rw [createdBy_iff, annotation?_withProvenance, Provenance.annotations]
  refine ⟨?_, huid⟩
  -- The marker is set before all others, and none of them has its key.
  cases p.run <;> cases p.taskKey <;> rfl

end Resource

end Reconciler
