import Reconciler.Proofs.Resource.Difference
import Reconciler.Proofs.Resource.NormalForm

namespace Reconciler

open Wire
open Document (patched)

/-!
# What a patch of the metadata leaves

Patched metadata is read and written again, and neither keeps every document.  Where the patch
leaves a value, though, there is the same value after that as before.

* `Wire.Copies` — what is read from a patched object is written as this object;
* `Metadata.copies_parts` — the values of metadata, of which only tables are read from objects;
* `Metadata.walk_encode_of_leaves` — the written metadata at a path that the patch leaves.
-/

namespace Wire

variable {α : Type} {value : Decoder α} {encode : α → Document} {p : Option Document}

/-- What is written of a value that was read from a patched object is this object. -/
def Copies (p : Option Document) (value : Decoder α) (encode : α → Document) : Prop :=
  ∀ (before : Option α) (y : α) (d : Document), patched (before.map encode) p = some d →
    d.kind = .object → value d = .ok y → d = encode y

/-- A value that is never read from an object has nothing to copy. -/
theorem copies_of_kind (hkind : ∀ d y, value d = .ok y → d.kind ≠ .object) :
    Copies p value encode :=
  fun _ y d _ hobject hy => absurd hobject (hkind d y hy)

/-- A table of texts is written as the object that it was read from. -/
theorem copies_stringTable (hp : ∀ q ∈ p, q.WellFormed) : Copies p stringTable ofTable :=
  fun _ _ _ hd _ hy => eq_ofTable_of_patched hp hd hy

/-- A value that is read from an object, and so not from null. -/
theorem Fields.reads_omittable_of_kind {name : String} {members : List (String × Document)}
    {d : Document} {x : Option α} (hget : Entries.get? name members = some d)
    (hd : d.kind = .object) (h : (omittable name value).Reads members x) :
    ∃ y, value d = .ok y ∧ some y = x := by
  rcases Fields.reads_omittable.mp h with ⟨hnull, -⟩ | ⟨d', hget', -, hread⟩
  · rw [hget, Option.all_some, Document.isNull_iff_kind, hd] at hnull
    cases hnull
  · obtain rfl := Option.some.inj (hget.symm.trans hget')
    exact hread

end Wire

namespace Metadata

variable {before u : Metadata} {members : List (String × Document)} {p : Option Document}

/-- Each part of metadata is either a table or not read from an object. -/
theorem copies_parts (hp : ∀ q ∈ p, q.WellFormed) :
    ∀ part ∈ parts, Copies (p.bind (Document.member? part.name)) part.value part.encode := by
  have htable : ∀ k, Copies (p.bind (Document.member? k)) stringTable ofTable :=
    fun k => copies_stringTable (Document.wellFormed_bind_member? hp k)
  simp only [parts, List.forall_mem_cons]
  exact ⟨htable _, copies_of_kind kind_of_timestamp, copies_of_kind kind_of_int64,
    copies_of_kind kind_of_timestamp, copies_of_kind kind_of_list, copies_of_kind kind_of_string,
    copies_of_kind kind_of_int64, htable _, copies_of_kind kind_of_list,
    copies_of_kind kind_of_string, copies_of_kind kind_of_string, copies_of_kind kind_of_list,
    copies_of_kind kind_of_string, copies_of_kind kind_of_string, copies_of_kind kind_of_string,
    List.forall_mem_nil _⟩

/-- A part that is read from its own written form is written in the same form again. -/
theorem written_of_reads_written (hbefore : before.NoNullFields) {part : RecordPart Metadata}
    (hpart : part ∈ parts) (hget : Entries.get? part.name members = part.written before)
    (hread : part.Reads members u) : part.written u = part.written before := by
  obtain ⟨xs, hxs, hreads⟩ := (decode_eq_ok_parts _ _).mp (decode_encode hbefore)
  have hsame : Entries.get? part.name xs = Entries.get? part.name members := by
    have hwritten := before.member?_encode_of_part hpart
    rw [hxs] at hwritten
    rw [hget, ← hwritten]
    rfl
  -- Both are read from the same member, and the fractions are not written.
  have hfield : part.field u = part.field before.toSecond :=
    ok_unique ((Fields.reads_omittable_congr hsame).mpr hread) (hreads part hpart)
  calc part.written u = part.written before.toSecond := by
        rw [RecordPart.written, RecordPart.written, hfield]
    _ = part.written before := by
        rw [← member?_encode_of_part _ hpart, ← member?_encode_of_part _ hpart, encode_toSecond]

/-- Where the patch leaves a value of one member, it is written after the patch as it was
    before. -/
theorem bind_walk_member?_of_leaves (hbefore : before.NoNullFields)
    (hp : ∀ q ∈ p, q.WellFormed) (hpatched : patched (some before.encode) p = some (.obj members))
    (hu : Metadata.decode (.obj members) = .ok u) {k : String} {rest : List Segment}
    (hleaves : ∀ q ∈ p.bind (Document.member? k), q.Leaves rest) :
    (u.encode.member? k).bind (Document.walk rest) =
      (before.encode.member? k).bind (Document.walk rest) := by
  by_cases hpart : ∃ part ∈ parts, part.name = k
  · obtain ⟨part, hmem, rfl⟩ := hpart
    obtain ⟨_, hmembers, hreads⟩ := (decode_eq_ok_parts _ _).mp hu
    obtain rfl := Document.obj.inj hmembers
    have hread : part.Reads members u := hreads part hmem
    have hget := get?_of_patched hpatched part.name
    rw [member?_encode_of_part _ hmem] at hget
    rw [member?_encode_of_part _ hmem, member?_encode_of_part _ hmem]
    cases hq : p.bind (Document.member? part.name) with
    | none =>
      -- The patch stops before this member, which is read as it was written.
      rw [hq] at hget
      rw [written_of_reads_written hbefore hmem hget hread]
    | some q =>
      -- The patch goes on into an object here, and so the member is read from one.
      have hqLeaves : q.Leaves rest := hleaves q hq
      obtain ⟨d, hd, hkind⟩ := Document.kind_patched (part.written before) q
      rw [hq, hd] at hget
      rw [Document.kind_of_leaves hqLeaves] at hkind
      obtain ⟨y, hy, hfield⟩ := Fields.reads_omittable_of_kind hget hkind hread
      have hwritten : part.written u = some d := by
        rw [RecordPart.written, ← hfield, Option.map_some]
        exact congrArg some (copies_parts hp part hmem _ y d (hq ▸ hd) hkind hy).symm
      rw [hwritten, Option.bind_some]
      exact Document.walk_patched_of_leaves hqLeaves hd
  · have hnone : ∀ m : Metadata, m.encode.member? k = none :=
      fun m => m.member?_encode_of_not_part fun part hmem hname => hpart ⟨part, hmem, hname⟩
    rw [hnone, hnone]

/-- Where the patch leaves a value of the metadata, it is written after the patch as it was
    before. -/
theorem walk_encode_of_leaves (hbefore : before.NoNullFields) (hp : ∀ q ∈ p, q.WellFormed)
    (hpatched : patched (some before.encode) p = some (.obj members))
    (hu : Metadata.decode (.obj members) = .ok u) {steps : List Segment}
    (hleaves : ∀ q ∈ p, q.Leaves steps) : u.encode.walk steps = before.encode.walk steps := by
  cases p with
  | none =>
    have hwritten : before.encode = .obj members := Option.some.inj hpatched
    have hsecond : before.toSecond = u := ok_unique (decode_encode hbefore) (hwritten ▸ hu)
    rw [← hsecond, encode_toSecond]
  | some q =>
    have hq : q.Leaves steps := hleaves q rfl
    obtain ⟨ps, rfl⟩ := Document.kind_eq_object_iff.mp (Document.kind_of_leaves hq)
    cases steps with
    | nil => exact hq.elim
    | cons s rest =>
      cases s with
      | index i => exact hq.elim
      | key k =>
        exact bind_walk_member?_of_leaves hbefore hp hpatched hu (Document.leaves_obj.mp hq)

end Metadata

end Reconciler
