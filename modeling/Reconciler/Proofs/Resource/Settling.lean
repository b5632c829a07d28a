import Reconciler.Proofs.Resource.Provenance
import Reconciler.Proofs.Wire.Settling

namespace Reconciler

open Wire
open Document (patched)

/-!
# Metadata that settles

Metadata is written without the members that it does not know and those that are null, and
its timestamps without their fractions.  It settles nevertheless: a patch that has put one
of these there puts it there again.

* `OwnerReference.decode_encode` — an owner is written without a loss;
* `ManagedFields.settles` — the fields of a manager settle where they are written;
* `Metadata.settles` — all of the metadata settles, under every patch.
-/

/-! ### Items of the lists -/

/-- What is written of an owner reference reads as this owner reference. -/
theorem OwnerReference.decode_encode (o : OwnerReference) :
    OwnerReference.decode o.encode = .ok o := by
  obtain ⟨apiVersion, blockOwnerDeletion, controller, kind, name, uid⟩ := o
  cases blockOwnerDeletion <;> cases controller <;> rfl

/-- The parts of a manager. -/
def ManagedFields.parts : List (RecordPart ManagedFields) :=
  [⟨"apiVersion", string, .str, (·.apiVersion)⟩,
    ⟨"fieldsType", string, .str, (·.fieldsType)⟩,
    ⟨"fieldsV1", .ok, id, (·.fieldsV1)⟩,
    ⟨"manager", string, .str, (·.manager)⟩,
    ⟨"operation", string, .str, (·.operation)⟩,
    ⟨"subresource", string, .str, (·.subresource)⟩,
    ⟨"time", timestamp, encodeTimestamp, (·.time)⟩]

/-- A manager is read part by part. -/
theorem ManagedFields.decode_eq_ok (d : Document) (f : ManagedFields) :
    ManagedFields.decode d = .ok f ↔
      ∃ members, d = .obj members ∧ ∀ part ∈ parts, part.Reads members f := by
  cases f
  simp only [decode, object_eq_ok, Fields.reads_seq, Fields.reads_map, parts, RecordPart.Reads,
    List.forall_mem_cons]
  simp [and_assoc]

/-- A manager is written part by part. -/
theorem ManagedFields.get?_encode (f : ManagedFields) :
    ∃ members, f.encode = .obj members ∧
      ∀ part ∈ parts, Entries.get? part.name members = part.written f := by
  refine ⟨_, rfl, ?_⟩
  simp [get?_ofParts, part?, parts, RecordPart.written]

/-- An entry of managed fields loses a fraction and null fields on the first reading, and nothing
    after that. -/
theorem ManagedFields.settles : Settles none ManagedFields.decode ManagedFields.encode := by
  refine settles_of_parts decode_eq_ok get?_encode ?_
  have hdocument : Settles none Except.ok (id : Document → Document) :=
    settles_none_of_eq_ok fun _ => rfl
  simp only [parts, List.forall_mem_cons, Option.bind_none]
  exact ⟨settles_string _, settles_string _, hdocument, settles_string _, settles_string _,
    settles_string _, settles_timestamp _, nofun⟩

/-! ### Metadata -/

namespace Metadata

/-- The parts of metadata. -/
def parts : List (RecordPart Metadata) :=
  [⟨"annotations", stringTable, ofTable, (·.annotations)⟩,
    ⟨"creationTimestamp", timestamp, encodeTimestamp, (·.creationTimestamp)⟩,
    ⟨"deletionGracePeriodSeconds", int64, (.int ·.toInt), (·.deletionGracePeriodSeconds)⟩,
    ⟨"deletionTimestamp", timestamp, encodeTimestamp, (·.deletionTimestamp)⟩,
    ⟨"finalizers", list string, fun xs => .arr (xs.map .str), (·.finalizers)⟩,
    ⟨"generateName", string, .str, (·.generateName)⟩,
    ⟨"generation", int64, (.int ·.toInt), (·.generation)⟩,
    ⟨"labels", stringTable, ofTable, (·.labels)⟩,
    ⟨"managedFields", list ManagedFields.decode, fun xs => .arr (xs.map ManagedFields.encode),
      (·.managedFields)⟩,
    ⟨"name", string, .str, (·.name)⟩,
    ⟨"namespace", string, .str, (·.namespaceName)⟩,
    ⟨"ownerReferences", list OwnerReference.decode,
      fun xs => .arr (xs.map OwnerReference.encode), (·.ownerReferences)⟩,
    ⟨"resourceVersion", string, .str, (·.resourceVersion)⟩,
    ⟨"selfLink", string, .str, (·.selfLink)⟩,
    ⟨"uid", string, .str, (·.uid)⟩]

/-- Metadata is read part by part. -/
theorem decode_eq_ok_parts (d : Document) (m : Metadata) :
    Metadata.decode d = .ok m ↔
      ∃ members, d = .obj members ∧ ∀ part ∈ parts, part.Reads members m := by
  rw [decode_eq_ok]
  simp [parts, RecordPart.Reads]

/-- Metadata is written part by part. -/
theorem get?_encode (m : Metadata) :
    ∃ members, m.encode = .obj members ∧
      ∀ part ∈ parts, Entries.get? part.name members = part.written m := by
  refine ⟨_, rfl, ?_⟩
  simp [get?_ofParts, part?, parts, RecordPart.written]

/-- The members that are not known and those that are null, which are not written, are put
    back by the patch that has put them there. -/
theorem settles {p : Option Document} (hp : ∀ q ∈ p, q.WellFormed) :
    Settles p Metadata.decode Metadata.encode := by
  refine settles_of_parts decode_eq_ok_parts get?_encode ?_
  -- Only tables are patched member by member; every other part is written as a whole.
  have htable : ∀ k, Settles (p.bind (Document.member? k)) stringTable ofTable :=
    fun k => settles_stringTable (Document.wellFormed_bind_member? hp k)
  have howners : Settles none OwnerReference.decode OwnerReference.encode :=
    settles_none_of_eq_ok OwnerReference.decode_encode
  simp only [parts, List.forall_mem_cons]
  exact ⟨htable _, settles_timestamp _, settles_int64 _, settles_timestamp _,
    settles_list (settles_string none) (fun _ => rfl) _, settles_string _, settles_int64 _,
    htable _, settles_list ManagedFields.settles (fun _ => rfl) _, settles_string _,
    settles_string _, settles_list howners (fun _ => rfl) _, settles_string _, settles_string _,
    settles_string _, nofun⟩

end Metadata

end Reconciler
