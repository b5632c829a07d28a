import Reconciler.Proofs.Document.Patch
import Reconciler.Proofs.Timestamp
import Reconciler.Proofs.Wire.RoundTrip
import Reconciler.Resource.Metadata

namespace Reconciler.Wire

open Document (patched)

/-!
# Values that settle

A value is written, patched and read.  What is read need not be what was written, and
neither what is written of it need be what was read: a timestamp loses its fraction, and a
member that reads as none is left out.  But a value settles: after the same patch over what
is written of it, it reads as it is.

* `Settles` — the property, under a patch or without one;
* `Settles.of_kind` — values that are read from no object settle under every patch when
  they do without one;
* `settles_list`, `settles_timestamp`, `settles_stringTable` — the values of metadata;
* `Settles.reads_omittable`, `Settles.reads_withDefault` — the members of a record;
* `RecordPart`, `settles_of_parts` — a record settles part by part.
-/

variable {α : Type} {value : Decoder α} {encode : α → Document} {p : Option Document}

/-- What is read after a patch is read again after the same patch over what is written of
    it.  A null counts as nothing read. -/
def Settles (p : Option Document) (value : Decoder α) (encode : α → Document) : Prop :=
  ∀ (x : Option α) (y : α) (d : Document), patched (x.map encode) p = some d →
    d.isNull = false → value d = .ok y →
      ∃ d', patched (some (encode y)) p = some d' ∧ d'.isNull = false ∧ value d' = .ok y

/-! ### Values of one piece -/

/-- Without a patch, a value settles when it is written back in a form that it reads from. -/
theorem settles_none
    (h : ∀ x y, (encode x).isNull = false → value (encode x) = .ok y →
      (encode y).isNull = false ∧ value (encode y) = .ok y) : Settles none value encode := by
  intro x y d hd hnull hy
  obtain ⟨x, rfl, rfl⟩ := Option.map_eq_some_iff.mp (show x.map encode = some d from hd)
  exact ⟨encode y, rfl, h x y hnull hy⟩

/-- What is written and read without a loss settles. -/
theorem settles_none_of_eq_ok (h : ∀ x, value (encode x) = .ok x) : Settles none value encode := by
  refine settles_none fun x y hnull hy => ?_
  obtain rfl := ok_unique (h x) hy
  exact ⟨hnull, h x⟩

/-- What is read from no object is written by a patch as a whole, or it is not patched. -/
theorem Settles.of_kind (h : Settles none value encode)
    (hkind : ∀ d y, value d = .ok y → d.kind ≠ .object) (p : Option Document) :
    Settles p value encode := by
  cases p with
  | none => exact h
  | some q =>
    intro x y d hd hnull hy
    have hq : q.kind ≠ .object := Document.kind_of_patched hd ▸ hkind d y hy
    rw [Document.patched_of_kind hq] at hd
    exact ⟨d, by rw [Document.patched_of_kind hq, hd], hnull, hy⟩

/-- No text is read from an object. -/
theorem kind_of_string (d : Document) (s : String) (h : string d = .ok s) : d.kind ≠ .object := by
  rw [string_eq_ok.mp h]
  simp [Document.kind]

/-- A text settles, since it is written as it was read. -/
theorem settles_string (p : Option Document) : Settles p string .str :=
  (settles_none_of_eq_ok string_str).of_kind kind_of_string p

theorem kind_of_int64 (d : Document) (n : Int64) (h : int64 d = .ok n) : d.kind ≠ .object := by
  cases d <;> simp [int64, integer, wrongKind, Document.kind] at h ⊢

theorem settles_int64 (p : Option Document) : Settles p int64 (.int ·.toInt) :=
  (settles_none_of_eq_ok int64_int).of_kind kind_of_int64 p

/-- A timestamp is written without its fraction. -/
theorem timestamp_encodeTimestamp (t : Timestamp) :
    timestamp (encodeTimestamp t) = .ok { t with nanosecond := 0 } := by
  simp only [timestamp, encodeTimestamp, Timestamp.parse_text]

theorem kind_of_timestamp (d : Document) (t : Timestamp) (h : timestamp d = .ok t) :
    d.kind ≠ .object := by
  cases d <;> simp [timestamp, wrongKind, Document.kind] at h ⊢

/-- A timestamp loses its fraction when it is written, and has none to lose after that. -/
theorem settles_timestamp (p : Option Document) : Settles p timestamp encodeTimestamp := by
  refine (settles_none fun x y _ hy => ?_).of_kind kind_of_timestamp p
  obtain rfl := ok_unique (timestamp_encodeTimestamp x) hy
  exact ⟨rfl, timestamp_encodeTimestamp _⟩

/-! ### Collections -/

theorem kind_of_list (d : Document) (ys : List α) (h : list value d = .ok ys) :
    d.kind ≠ .object := by
  obtain ⟨items, rfl, -⟩ := list_eq_ok.mp h
  simp [Document.kind]

/-- A list settles when its items do; a patch never reaches into it. -/
theorem settles_list (h : Settles none value encode) (hnull : ∀ x, (encode x).isNull = false)
    (p : Option Document) : Settles p (list value) fun xs => .arr (xs.map encode) := by
  -- A list is never patched inside, so its items settle without a patch.
  refine (settles_none fun xs ys _ hys => ⟨rfl, ?_⟩).of_kind kind_of_list p
  obtain ⟨items, hitems, hread⟩ := list_eq_ok.mp hys
  obtain rfl := Document.arr.inj hitems
  rw [List.forall₂_map_left_iff] at hread
  refine list_eq_ok.mpr ⟨_, rfl, ?_⟩
  rw [List.forall₂_map_left_iff, List.forall₂_same]
  intro y hy
  obtain ⟨x, -, hxy⟩ := exists_left_of_forall₂ hread hy
  obtain ⟨d, hd, -, hdecode⟩ := h (some x) y _ rfl (hnull x) hxy
  rwa [← Option.some.inj (show some (encode y) = some d from hd)] at hdecode

/-- A table of texts is written as a well-formed object. -/
theorem wellFormed_ofTable (t : Table String String) : (ofTable t).WellFormed := by
  refine ⟨Entries.Sorted.map_values t.sorted fun _ s => Document.str s, ?_⟩
  rw [Document.membersWellFormed_iff]
  intro e he
  obtain ⟨e, -, rfl⟩ := List.mem_map.mp he
  trivial

theorem wellFormed_map_ofTable (x : Option (Table String String)) :
    ∀ o ∈ x.map ofTable, o.WellFormed := by
  intro o ho
  obtain ⟨t, -, rfl⟩ := Option.map_eq_some_iff.mp ho
  exact wellFormed_ofTable t

/-- A patched table is read from its own written form. -/
theorem eq_ofTable_of_patched (hp : ∀ q ∈ p, q.WellFormed) {x : Option (Table String String)}
    {t : Table String String} {d : Document} (hd : patched (x.map ofTable) p = some d)
    (ht : stringTable d = .ok t) : d = ofTable t :=
  (stringTable_eq_ok (Document.wellFormed_patched (wellFormed_map_ofTable x) hp hd)).mp ht

/-- A table of strings is written as it was read, so a patch has nothing left to do. -/
theorem settles_stringTable (hp : ∀ q ∈ p, q.WellFormed) : Settles p stringTable ofTable := by
  intro x y d hd hnull hy
  have hx := wellFormed_map_ofTable x
  have hwritten : d = ofTable y := eq_ofTable_of_patched hp hd hy
  refine ⟨d, ?_, hnull, hy⟩
  rw [← hwritten, ← hd]
  exact Document.patched_patched hx hp

/-! ### Members -/

variable {name : String} {first second : List (String × Document)}

/-- A member that may be missing or null settles with its value. -/
theorem Settles.reads_omittable {x y : Option α} (h : Settles p value encode)
    (hfirst : Entries.get? name first = patched (x.map encode) p)
    (hsecond : Entries.get? name second = patched (y.map encode) p)
    (hread : (omittable name value).Reads first y) : (omittable name value).Reads second y := by
  rcases Fields.reads_omittable.mp hread with ⟨hnull, rfl⟩ | ⟨d, hget, hnull, y, hy, rfl⟩
  · refine Fields.reads_omittable.mpr (.inl ⟨?_, rfl⟩)
    rw [hsecond]
    cases p with
    | none => rfl
    | some q =>
      -- The null that was read is the patch, whatever it has been laid over.
      obtain ⟨d, hd, hkind⟩ := Document.kind_patched (x.map encode) q
      rw [hfirst, hd, Option.all_some, Document.isNull_iff_kind, hkind] at hnull
      exact Document.isNull_iff_kind.mpr hnull
  · obtain ⟨d', hd', hnull', hy'⟩ := h x y d (hfirst ▸ hget) hnull hy
    exact Fields.reads_omittable.mpr (.inr ⟨d', hsecond.trans hd', hnull', y, hy', rfl⟩)

/-- A member that is always written settles with its value, unless that may be a null. -/
theorem Settles.reads_withDefault {x y absent : α} (h : Settles p value encode)
    (hnull : ∀ d y, value d = .ok y → d.isNull = false)
    (hfirst : Entries.get? name first = patched (some (encode x)) p)
    (hsecond : Entries.get? name second = patched (some (encode y)) p)
    (hread : (withDefault name value absent).Reads first y) :
    (withDefault name value absent).Reads second y := by
  rcases Fields.reads_withDefault.mp hread with ⟨hget, -⟩ | ⟨d, hget, hy⟩
  · rw [hfirst] at hget
    cases p <;> simp [patched] at hget
  · obtain ⟨d', hd', -, hy'⟩ := h (some x) y d (hfirst ▸ hget) (hnull d y hy) hy
    exact Fields.reads_withDefault.mpr (.inr ⟨d', hsecond.trans hd', hy'⟩)

/-! ### Records -/

/-- A part of a record that is none where its member is missing or null, and is left out
    where it is none. -/
structure RecordPart (ρ : Type) where
  {β : Type}
  name : String
  value : Decoder β
  encode : β → Document
  field : ρ → Option β

/-- The members of an object read as this part of `r`. -/
def RecordPart.Reads {ρ : Type} (part : RecordPart ρ) (members : List (String × Document))
    (r : ρ) : Prop :=
  (omittable part.name part.value).Reads members (part.field r)

/-- The member that is written of this part of `r`. -/
def RecordPart.written {ρ : Type} (part : RecordPart ρ) (r : ρ) : Option Document :=
  (part.field r).map part.encode

section Parts

variable {ρ : Type} {decode : Decoder ρ} {encode : ρ → Document} {parts : List (RecordPart ρ)}

/-- Where a record is written part by part, a patch reaches each part by itself. -/
theorem get?_of_patched_parts
    (hencode : ∀ r, ∃ members, encode r = .obj members ∧
      ∀ part ∈ parts, Entries.get? part.name members = part.written r)
    {r : Option ρ} {members : List (String × Document)}
    (h : patched (r.map encode) p = some (.obj members)) {part : RecordPart ρ}
    (hpart : part ∈ parts) :
    Entries.get? part.name members =
      patched ((r.bind part.field).map part.encode) (p.bind (Document.member? part.name)) := by
  -- A record is written as an object, so a patch goes through its members.
  have hobject : ∀ o ∈ r.map encode, o.kind = .object := by
    intro o ho
    obtain ⟨r, -, rfl⟩ := Option.map_eq_some_iff.mp ho
    obtain ⟨written, hwritten, -⟩ := hencode r
    rw [hwritten, Document.kind]
  have hwritten : (r.map encode).bind (Document.member? part.name) =
      (r.bind part.field).map part.encode := by
    cases r with
    | none => rfl
    | some r =>
      obtain ⟨written, hwritten, hget⟩ := hencode r
      rw [Option.map_some, Option.bind_some, hwritten]
      exact hget part hpart
  rw [← hwritten]
  exact Document.member?_patched hobject rfl h part.name

/-- A record that is read and written part by part settles when each part does, under the
    patch of its member. -/
theorem settles_of_parts
    (hdecode : ∀ d r, decode d = .ok r ↔
      ∃ members, d = .obj members ∧ ∀ part ∈ parts, part.Reads members r)
    (hencode : ∀ r, ∃ members, encode r = .obj members ∧
      ∀ part ∈ parts, Entries.get? part.name members = part.written r)
    (hparts : ∀ part ∈ parts,
      Settles (p.bind (Document.member? part.name)) part.value part.encode) :
    Settles p decode encode := by
  intro x y d hd _ hy
  obtain ⟨first, rfl, hread⟩ := (hdecode d y).mp hy
  -- The patch is an object, since an object was read, and so it leaves an object again.
  obtain ⟨second, hsecond⟩ : ∃ second, patched (some (encode y)) p = some (.obj second) := by
    cases p with
    | none =>
      obtain ⟨members, hmembers, -⟩ := hencode y
      exact ⟨members, congrArg some hmembers⟩
    | some q =>
      obtain ⟨d', hd', hkind⟩ := Document.kind_patched (some (encode y)) q
      rw [← Document.kind_of_patched hd] at hkind
      obtain ⟨members, rfl⟩ := Document.kind_eq_object_iff.mp hkind
      exact ⟨members, hd'⟩
  refine ⟨_, hsecond, rfl, (hdecode _ y).mpr ⟨second, rfl, fun part hpart => ?_⟩⟩
  have hy : patched ((some y).map encode) p = some (.obj second) := hsecond
  exact (hparts part hpart).reads_omittable (get?_of_patched_parts hencode hd hpart)
    (get?_of_patched_parts hencode hy hpart) (hread part hpart)

end Parts

end Reconciler.Wire
