import Reconciler.Proofs.Resource.Access
import Reconciler.Proofs.Resource.Equality
import Reconciler.Proofs.Resource.Settling
import Reconciler.Resource.Dynamic

namespace Reconciler

open Wire

/-!
# The normal form of a resource

What is written of a resource is not the document that it was read from: metadata loses the
members that it does not know and those that are null, timestamps lose their fractions, and
the typed parts are written even where they were missing.  Reading and writing once brings
every document into a form that reading and writing again leaves as it is.

* `Metadata.toSecond` — metadata as it is written, with timestamps to the second;
* `Metadata.decode_encode`, `Resource.decode_encode` — that is what is read of what is written;
* `Resource.encode_toSecond` — and it is written in the same way;
* `Document.WholeSeconds`, `Resource.toSecond_eq_self` — it is all of the resource where no
  timestamp of its document has a fraction;
* `Resource.toResource_toDynamic` — dynamic objects lead to the same resource;
* `Resource.normalForm` — all of this for the resource of a document.
-/

/-! ### Records that come back in another form -/

namespace Wire

variable {ρ : Type}

/-- What is written of this part of `r` reads as this part of `r'`. -/
def RecordPart.ReadsBack (part : RecordPart ρ) (r r' : ρ) : Prop :=
  ∃ g, part.field r' = (part.field r).map g ∧
    ∀ y ∈ part.field r, (part.encode y).isNull = false ∧ part.value (part.encode y) = .ok (g y)

/-- A part that comes back changed by `g`, whatever it is. -/
theorem RecordPart.ReadsBack.of_map {α : Type} {name : String} {value : Decoder α}
    {encode : α → Document} {field : ρ → Option α} {g : α → α} {r r' : ρ}
    (hfield : field r' = (field r).map g)
    (h : ∀ y, (encode y).isNull = false ∧ value (encode y) = .ok (g y)) :
    RecordPart.ReadsBack ⟨name, value, encode, field⟩ r r' :=
  ⟨g, hfield, fun y _ => h y⟩

/-- A part that is the same in both. -/
theorem RecordPart.ReadsBack.of_eq {part : RecordPart ρ} {r r' : ρ}
    (hfield : part.field r' = part.field r)
    (h : ∀ y ∈ part.field r, (part.encode y).isNull = false ∧ part.value (part.encode y) = .ok y) :
    part.ReadsBack r r' :=
  ⟨id, by rw [hfield, Option.map_id, id], h⟩

/-- A record comes back part by part. -/
theorem decode_encode_of_parts {decode : Decoder ρ} {encode : ρ → Document}
    {parts : List (RecordPart ρ)} {r r' : ρ}
    (hdecode : ∀ d r, decode d = .ok r ↔
      ∃ members, d = .obj members ∧ ∀ part ∈ parts, part.Reads members r)
    (hencode : ∀ r, ∃ members, encode r = .obj members ∧
      ∀ part ∈ parts, Entries.get? part.name members = part.written r)
    (h : ∀ part ∈ parts, part.ReadsBack r r') : decode (encode r) = .ok r' := by
  obtain ⟨members, hmembers, hwritten⟩ := hencode r
  refine (hdecode _ r').mpr ⟨members, hmembers, fun part hpart => ?_⟩
  obtain ⟨g, hfield, hread⟩ := h part hpart
  rw [RecordPart.Reads, hfield]
  exact Fields.finds_omittable_map (hwritten part hpart) hread

end Wire

/-! ### Timestamps to the second -/

/-- The instant as it is written. -/
def Timestamp.toSecond (t : Timestamp) : Timestamp :=
  { t with nanosecond := ⟨0, t.nanosecond.pos⟩ }

/-- An instant without a fraction is written as it is. -/
theorem Timestamp.toSecond_eq_self {t : Timestamp} (h : t.nanosecond.val = 0) :
    t.toSecond = t := by
  cases t
  exact congrArg _ (Fin.ext h.symm)

/-- The fraction of an instant is not written. -/
theorem map_encodeTimestamp_toSecond (t : Option Timestamp) :
    (t.map Timestamp.toSecond).map encodeTimestamp = t.map encodeTimestamp := by
  cases t <;> rfl

section Values

variable {ρ : Type} {name : String} {r r' : ρ}

theorem readsBack_string {field : ρ → Option String} (h : field r' = field r) :
    RecordPart.ReadsBack ⟨name, string, .str, field⟩ r r' :=
  .of_eq h fun s _ => ⟨rfl, string_str s⟩

/-- An instant comes back to the second. -/
theorem readsBack_timestamp {field : ρ → Option Timestamp}
    (h : field r' = (field r).map Timestamp.toSecond) :
    RecordPart.ReadsBack ⟨name, timestamp, encodeTimestamp, field⟩ r r' :=
  .of_map h fun t => ⟨rfl, timestamp_encodeTimestamp t⟩

end Values

/-! ### Managers -/

namespace ManagedFields

/-- The fields of a manager as they are written. -/
def toSecond (f : ManagedFields) : ManagedFields :=
  { f with time := f.time.map Timestamp.toSecond }

/-- Cutting off the fraction changes nothing that is written. -/
theorem encode_toSecond (f : ManagedFields) : f.toSecond.encode = f.encode := by
  simp only [encode, toSecond, map_encodeTimestamp_toSecond]

/-- A null for the fields reads as none. -/
theorem fieldsV1_of_decode {d : Document} {f : ManagedFields} (h : decode d = .ok f) :
    f.fieldsV1 ≠ some .null := by
  obtain ⟨members, rfl, hread⟩ := (decode_eq_ok d f).mp h
  simp only [parts, List.forall_mem_cons] at hread
  obtain ⟨-, -, hfields, -⟩ := hread
  exact Fields.ne_null_of_yields (.inl ⟨_, hfields⟩)

/-- What is written of an entry of managed fields reads as this entry to the second, unless its
    fields are null. -/
theorem decode_encode {f : ManagedFields} (h : f.fieldsV1 ≠ some .null) :
    decode f.encode = .ok f.toSecond := by
  refine decode_encode_of_parts decode_eq_ok get?_encode ?_
  simp only [parts, List.forall_mem_cons]
  exact ⟨readsBack_string rfl, readsBack_string rfl,
    .of_eq rfl fun d hd => ⟨Fields.isNull_of_mem h hd, rfl⟩, readsBack_string rfl,
    readsBack_string rfl, readsBack_string rfl, readsBack_timestamp rfl,
    List.forall_mem_nil _⟩

end ManagedFields

/-! ### Metadata -/

namespace Metadata

/-- Metadata as it is written. -/
def toSecond (m : Metadata) : Metadata :=
  { m with
    creationTimestamp := m.creationTimestamp.map Timestamp.toSecond
    deletionTimestamp := m.deletionTimestamp.map Timestamp.toSecond
    managedFields := m.managedFields.map fun fs => fs.map ManagedFields.toSecond }

/-- Metadata that is cut to the second is written as before. -/
theorem encode_toSecond (m : Metadata) : m.toSecond.encode = m.encode := by
  have hmanaged : (m.managedFields.map fun fs => fs.map ManagedFields.toSecond).map
      (fun fs => Document.arr (fs.map ManagedFields.encode)) =
        m.managedFields.map fun fs => .arr (fs.map ManagedFields.encode) := by
    simp [Function.comp_def, ManagedFields.encode_toSecond]
  simp only [encode, toSecond, map_encodeTimestamp_toSecond, hmanaged]

/-- No manager has null for its fields, which would read as none. -/
def NoNullFields (m : Metadata) : Prop :=
  ∀ fs ∈ m.managedFields, ∀ f ∈ fs, f.fieldsV1 ≠ some .null

/-- Null fields are read as none, so no metadata that was read has them. -/
theorem noNullFields_of_decode {d : Document} {m : Metadata} (h : decode d = .ok m) :
    m.NoNullFields := by
  obtain ⟨members, rfl, -, -, -, -, -, -, -, -, hmanaged, -⟩ := decode_eq_ok.mp h
  intro fs hfs
  rcases Fields.reads_omittable.mp hmanaged with ⟨-, hnone⟩ | ⟨d, -, -, y, hy, hsome⟩
  · rw [← hnone] at hfs
    cases hfs
  · rw [← hsome] at hfs
    obtain rfl := Option.some.inj hfs
    exact forall_mem_of_list (fun _ _ => ManagedFields.fieldsV1_of_decode) hy

/-- Metadata comes back with its timestamps to the second, and otherwise as it is. -/
theorem decode_encode {m : Metadata} (h : m.NoNullFields) : decode m.encode = .ok m.toSecond := by
  have htable : ∀ name field, field m.toSecond = field m →
      RecordPart.ReadsBack ⟨name, stringTable, ofTable, field⟩ m m.toSecond :=
    fun _ _ hfield => .of_eq hfield fun t _ => ⟨rfl, stringTable_ofTable t⟩
  have hint : ∀ name field, field m.toSecond = field m →
      RecordPart.ReadsBack ⟨name, int64, (.int ·.toInt), field⟩ m m.toSecond :=
    fun _ _ hfield => .of_eq hfield fun n _ => ⟨rfl, int64_int n⟩
  refine decode_encode_of_parts decode_eq_ok_parts get?_encode ?_
  simp only [parts, List.forall_mem_cons]
  -- Only the timestamps change, those of the managers included.
  refine ⟨htable _ _ rfl, readsBack_timestamp rfl, hint _ _ rfl, readsBack_timestamp rfl,
    ?finalizers, readsBack_string rfl, hint _ _ rfl, htable _ _ rfl, ?managedFields,
    readsBack_string rfl, readsBack_string rfl, ?ownerReferences, readsBack_string rfl,
    readsBack_string rfl, readsBack_string rfl, List.forall_mem_nil _⟩
  case finalizers => exact .of_eq rfl fun xs _ => ⟨rfl, list_string xs⟩
  case managedFields =>
    exact ⟨_, rfl, fun fs hfs =>
      ⟨rfl, list_written_map fun f hf => ManagedFields.decode_encode (h fs hfs f hf)⟩⟩
  case ownerReferences =>
    exact .of_eq rfl fun os _ => ⟨rfl, list_written fun o _ => o.decode_encode⟩

/-- A timestamp loses its fraction, and a member that is not known is left out. -/
example :
    (Metadata.decode (.obj [("clusterName", .str "east"),
      ("creationTimestamp", .str "2024-05-01T12:00:00.5Z")])).map encode =
    .ok (.obj [("creationTimestamp", .str "2024-05-01T12:00:00Z")]) := by rfl

end Metadata

/-! ### Resources -/

namespace Resource

/-- A resource as it is written. -/
def toSecond (r : Resource) : Resource :=
  { r with metadata := r.metadata.toSecond }

/-- A resource that is cut to the second is written as before. -/
theorem encode_toSecond (r : Resource) : r.toSecond.encode = r.encode := by
  simp only [encode, typedMembers, toSecond, Metadata.encode_toSecond]

/-- No resource that was read has null fields in its metadata. -/
theorem noNullFields_of_decode {d : Document} {r : Resource} (h : Resource.decode d = .ok r) :
    r.metadata.NoNullFields := by
  obtain ⟨members, rfl, -, -, hmetadata, -⟩ := decode_eq_ok.mp h
  rcases Fields.reads_withDefault.mp hmetadata with ⟨-, hempty⟩ | ⟨d, -, hread⟩
  · rw [← hempty]
    exact nofun
  · exact Metadata.noNullFields_of_decode hread

/-- The other members of a sorted document stay sorted. -/
theorem sorted_data_of_decode {d : Document} (hd : d.WellFormed) {r : Resource}
    (h : Resource.decode d = .ok r) : Entries.Sorted r.data := by
  obtain ⟨members, rfl, -, -, -, hdata⟩ := decode_eq_ok.mp h
  rw [← hdata]
  exact List.Pairwise.filter _ hd.1

/-- The members that are not typed are those that were read. -/
theorem filter_members {r : Resource} (hsorted : Entries.Sorted r.data) (h : r.Separate) :
    r.members.filter (fun e => !typedNames.contains e.1) = r.data := by
  refine Entries.ext (List.Pairwise.filter _ r.sorted_members) hsorted fun k => ?_
  rw [Entries.get?_filter_key k fun k => !typedNames.contains k]
  cases hk : typedNames.contains k with
  | true => exact (h k hk).symm
  | false => exact get?_members_of_not_typed hk r

variable {v : Document} {r : Resource}

/-- A resource that was read comes back with its timestamps to the second. -/
theorem decode_encode (hv : v.WellFormed) (h : Resource.decode v = .ok r) :
    Resource.decode r.encode = .ok r.toSecond := by
  have hseparate := separate_of_decode h
  refine decode_eq_ok.mpr ⟨r.members, rfl, ?apiVersion, ?kind, ?metadata,
    filter_members (sorted_data_of_decode hv h) hseparate⟩
  case apiVersion => exact Fields.finds_withDefault (hseparate.get?_members rfl) rfl
  case kind => exact Fields.finds_withDefault (hseparate.get?_members rfl) rfl
  case metadata =>
    exact Fields.finds_withDefault (hseparate.get?_members rfl)
      (Metadata.decode_encode (noNullFields_of_decode h))

/-! ### Dynamic objects -/

/-- The dynamic object of a resource that was read. -/
theorem toDynamic_eq_ok (hv : v.WellFormed) (h : Resource.decode v = .ok r) :
    r.toDynamic = .ok ⟨some ⟨r.apiVersion, r.kind⟩, r.metadata.toSecond, r.data⟩ := by
  have hseparate := separate_of_decode h
  -- The types and the metadata stand under their own names, as no other member has these.
  have htypes : DynamicObject.types? r.members = some ⟨r.apiVersion, r.kind⟩ := by
    rw [DynamicObject.types?, hseparate.get?_members rfl, hseparate.get?_members rfl]
    rfl
  have hmetadata : (withDefault "metadata" Metadata.decode Metadata.empty).Reads r.members
      r.metadata.toSecond :=
    Fields.finds_withDefault (hseparate.get?_members rfl)
      (Metadata.decode_encode (noNullFields_of_decode h))
  rw [toDynamic, encode_eq, DynamicObject.decode, htypes,
    filter_members (sorted_data_of_decode hv h) hseparate]
  rw [mapError_eq_ok, ofObject_eq_ok]
  exact Fields.reads_map.mpr ⟨_, hmetadata, rfl⟩

/-- A dynamic object is written as its resource is, and so leads back to the same resource. -/
theorem toResource_toDynamic (hv : v.WellFormed) (h : Resource.decode v = .ok r) :
    (do (← r.toDynamic).toResource) = Resource.decode r.encode := by
  -- Its parts are written like those of the resource, with the timestamps to the second.
  rw [toDynamic_eq_ok hv h, ← encode_toSecond]
  rfl

end Resource

/-! ### Documents without fractions of a second -/

/-- The timestamp that the steps lead to, if they do, has no fraction. -/
def Document.WholeAt (v : Document) (steps : List Segment) : Prop :=
  ∀ d t, v.walk steps = some d → timestamp d = .ok t → t.nanosecond.val = 0

/-- No timestamp in the document of a resource has a fraction. -/
structure Document.WholeSeconds (v : Document) : Prop where
  creation : v.WholeAt [.key "metadata", .key "creationTimestamp"]
  deletion : v.WholeAt [.key "metadata", .key "deletionTimestamp"]
  managed : ∀ i, v.WholeAt [.key "metadata", .key "managedFields", .index i, .key "time"]

/-- What is whole in an object at a key and a path is whole in that member at the path. -/
theorem Document.WholeAt.member {members : List (String × Document)} {k : String}
    {d : Document} {steps : List Segment} (h : (obj members).WholeAt (.key k :: steps))
    (hget : Entries.get? k members = some d) : d.WholeAt steps := by
  intro d' t hwalk
  refine h d' t ?_
  rw [walk, hget]
  exact hwalk

theorem Document.WholeAt.item {items : List Document} {i : Nat} {d : Document}
    {steps : List Segment} (h : (arr items).WholeAt (.index i :: steps))
    (hget : items[i]? = some d) : d.WholeAt steps := by
  intro d' t hwalk
  refine h d' t ?_
  rw [walk, hget]
  exact hwalk

/-- A member that reads as a timestamp without a fraction. -/
theorem map_toSecond_of_reads {members : List (String × Document)} {name : String}
    {t : Option Timestamp} (h : (Document.obj members).WholeAt [.key name])
    (hread : (omittable name timestamp).Reads members t) : t.map Timestamp.toSecond = t := by
  rcases Fields.reads_omittable.mp hread with ⟨-, rfl⟩ | ⟨d, hget, -, t, ht, rfl⟩
  · rfl
  · exact congrArg some (Timestamp.toSecond_eq_self (h.member hget d t rfl ht))

/-- An entry of managed fields that was read from a whole second has no fraction to lose. -/
theorem ManagedFields.toSecond_eq_self {d : Document} {f : ManagedFields}
    (h : d.WholeAt [.key "time"]) (hread : decode d = .ok f) : f.toSecond = f := by
  obtain ⟨members, rfl, hparts⟩ := (decode_eq_ok d f).mp hread
  simp only [parts, List.forall_mem_cons] at hparts
  obtain ⟨-, -, -, -, -, -, htime, -⟩ := hparts
  rw [toSecond, map_toSecond_of_reads h htime]

/-- Metadata that was read from whole seconds has no fractions to lose. -/
theorem Metadata.toSecond_eq_self {d : Document} {m : Metadata}
    (hcreation : d.WholeAt [.key "creationTimestamp"])
    (hdeletion : d.WholeAt [.key "deletionTimestamp"])
    (hmanaged : ∀ i, d.WholeAt [.key "managedFields", .index i, .key "time"])
    (hread : decode d = .ok m) : m.toSecond = m := by
  obtain ⟨members, rfl, -, hc, -, hd, -, -, -, -, hm, -⟩ := decode_eq_ok.mp hread
  -- Only the entries of managed fields have an instant inside.
  have hfields : m.managedFields.map (fun fs => fs.map ManagedFields.toSecond) =
      m.managedFields := by
    rcases Fields.reads_omittable.mp hm with ⟨-, hnone⟩ | ⟨d, hget, -, fs, hfs, hsome⟩
    · rw [← hnone]
      rfl
    · obtain ⟨items, rfl, hitems⟩ := list_eq_ok.mp hfs
      have hself : ∀ f ∈ fs, f.toSecond = f := by
        intro f hf
        obtain ⟨item, hmem, hitem⟩ := exists_left_of_forall₂ hitems hf
        obtain ⟨i, hi⟩ := List.getElem?_of_mem hmem
        exact ManagedFields.toSecond_eq_self (((hmanaged i).member hget).item hi) hitem
      rw [← hsome, Option.map_some, List.map_congr_left hself, List.map_id']
  rw [toSecond, map_toSecond_of_reads hcreation hc, map_toSecond_of_reads hdeletion hd, hfields]

namespace Resource

variable {v : Document} {r : Resource}

/-- A resource is all that is written of it where its document has no fractions. -/
theorem toSecond_eq_self (hwhole : v.WholeSeconds) (h : Resource.decode v = .ok r) :
    r.toSecond = r := by
  obtain ⟨members, rfl, -, -, hmetadata, -⟩ := decode_eq_ok.mp h
  have hself : r.metadata.toSecond = r.metadata := by
    rcases Fields.reads_withDefault.mp hmetadata with ⟨-, hempty⟩ | ⟨d, hget, hread⟩
    · rw [← hempty]
      rfl
    · exact Metadata.toSecond_eq_self (hwhole.creation.member hget)
        (hwhole.deletion.member hget) (fun i => (hwhole.managed i).member hget) hread
  rw [toSecond, hself]

/-! ### The normal form -/

/-- Reading and writing brings a document into a form in which it stays.  It has the members of
    the document that are not typed, and the three typed ones.  The resource that is read of it
    is also what a dynamic object leads back to, and where no timestamp of the document has a
    fraction it is the resource that was read of the document itself. -/
theorem normalForm (hv : v.WellFormed) (h : Resource.decode v = .ok r) :
    ∃ r', Resource.decode r.encode = .ok r' ∧ r'.encode = r.encode ∧
      (∀ k, typedNames.contains k = false → r.encode.member? k = v.member? k) ∧
      (∀ k, typedNames.contains k = true → (r.encode.member? k).isSome = true) ∧
      (do (← r.toDynamic).toResource) = Except.ok r' ∧
      (v.WholeSeconds → r' = r ∧ r'.same r = true) := by
  refine ⟨r.toSecond, decode_encode hv h, r.encode_toSecond, ?other, ?typed, ?dynamic, ?whole⟩
  case other =>
    intro k hk
    obtain ⟨members, rfl, -⟩ := decode_eq_ok.mp h
    show Entries.get? k r.members = Entries.get? k members
    rw [get?_members_of_not_typed hk, get?_data_of_decode h, hk]
    rfl
  case typed =>
    intro k hk
    show (Entries.get? k r.members).isSome = true
    rw [(separate_of_decode h).get?_members hk, Entries.isSome_get?_iff]
    exact List.contains_iff_mem.mp hk
  case dynamic => rw [toResource_toDynamic hv h, decode_encode hv h]
  case whole =>
    intro hwhole
    rw [toSecond_eq_self hwhole h]
    exact ⟨rfl, r.same_self⟩

/-! ### A pod -/

namespace WrittenPod

/-- A pod of no version, with a member of metadata that is not known, one that is null, and a
    timestamp of another time zone. -/
def document : Document :=
  .obj [("kind", .str "Pod"),
    ("metadata", .obj [("clusterName", .str "east"),
      ("creationTimestamp", .str "2024-05-01T12:00:00+02:00"), ("labels", .null),
      ("name", .str "web")]),
    ("spec", .obj [("hostNetwork", .bool true)])]

/-- The resource of the pod, with the instant in UTC. -/
def resource : Resource :=
  ⟨"", "Pod",
    { Metadata.empty with
      creationTimestamp := (Timestamp.parse "2024-05-01T10:00:00Z").toOption
      name := some "web" },
    [("spec", .obj [("hostNetwork", .bool true)])]⟩

theorem decode_document : Resource.decode document = .ok resource := by rfl

theorem wholeSeconds_document : document.WholeSeconds where
  creation := by
    intro d t hwalk ht
    obtain rfl : .str "2024-05-01T12:00:00+02:00" = d := Option.some.inj hwalk
    have hwhole : (timestamp (.str "2024-05-01T12:00:00+02:00")).map (·.nanosecond.val) = .ok 0 :=
      by rfl
    rw [ht] at hwhole
    exact Except.ok.inj hwhole
  deletion := by
    intro d t hwalk
    have hnone : document.walk [.key "metadata", .key "deletionTimestamp"] = none := by rfl
    exact absurd (hnone.symm.trans hwalk) nofun
  managed := by
    intro i d t hwalk
    have hnone : document.walk [.key "metadata", .key "managedFields", .index i, .key "time"] =
        none := by rfl
    exact absurd (hnone.symm.trans hwalk) nofun

end WrittenPod

theorem normalForm_writtenPod :
    WrittenPod.document.WellFormed ∧
      Resource.decode WrittenPod.document = .ok WrittenPod.resource ∧
      WrittenPod.document.WholeSeconds ∧
      ∃ r', Resource.decode WrittenPod.resource.encode = .ok r' ∧
        r'.encode = WrittenPod.resource.encode ∧
        (do (← WrittenPod.resource.toDynamic).toResource) = Except.ok r' ∧
        r' = WrittenPod.resource ∧ r'.same WrittenPod.resource = true := by
  have hv : WrittenPod.document.WellFormed := by decide
  obtain ⟨r', hread, hencode, -, -, hdynamic, hwhole⟩ := normalForm hv WrittenPod.decode_document
  exact ⟨hv, WrittenPod.decode_document, WrittenPod.wholeSeconds_document, r', hread, hencode,
    hdynamic, hwhole WrittenPod.wholeSeconds_document⟩

end Resource

end Reconciler
