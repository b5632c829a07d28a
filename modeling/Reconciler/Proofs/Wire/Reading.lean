import Reconciler.Proofs.Entries
import Reconciler.Proofs.Success
import Reconciler.Wire.Record

namespace Reconciler.Wire

/-!
# What values are read from

* `Fields.Reads` — the members of an object read as a value;
* `Fields.reads_omittable`, `Fields.reads_withDefault` — where the value of one member
  comes from;
* `Fields.reads_withDefault_congr` — it comes from that member alone;
* `object_eq_ok` — a record is read from the members of an object;
* `list_eq_ok` — a list is read from its items;
* `stringTable_eq_ok` — a table of strings is read from its own written form only.
-/

variable {α β : Type} {name : String} {members : List (String × Document)}

/-! ### Members -/

/-- The members of an object read as `x`. -/
def Fields.Reads (fields : Fields α) (members : List (String × Document)) (x : α) : Prop :=
  fields.ofLookup (Entries.get? · members) = .ok x

/-- Two groups of members are read one after the other, from the same object. -/
theorem Fields.reads_seq {f : Fields (α → β)} {g : Fields α} {y : β} :
    (f <*> g).Reads members y ↔ ∃ h, f.Reads members h ∧ ∃ x, g.Reads members x ∧ h x = y := by
  simp only [Reads, ofLookup_seq, bind_eq_ok, pure_eq_ok]

theorem Fields.reads_map {h : α → β} {g : Fields α} {y : β} :
    (h <$> g).Reads members y ↔ ∃ x, g.Reads members x ∧ h x = y := by
  simp only [Reads, ofLookup_map, bind_eq_ok, pure_eq_ok]

/-- A null reads as none, and anything else by the reader of its value. -/
theorem nullable_eq_ok {value : Decoder α} {d : Document} {x : Option α} :
    nullable value d = .ok x ↔
      (d.isNull = true ∧ none = x) ∨ d.isNull = false ∧ ∃ y, value d = .ok y ∧ some y = x := by
  cases d <;> simp [nullable, Document.isNull]

/-- A member that may be missing or null. -/
theorem Fields.reads_omittable {value : Decoder α} {x : Option α} :
    (omittable name value).Reads members x ↔
      ((Entries.get? name members).all Document.isNull = true ∧ none = x) ∨
        ∃ d, Entries.get? name members = some d ∧ d.isNull = false ∧
          ∃ y, value d = .ok y ∧ some y = x := by
  simp only [Reads, omittable, member]
  cases Entries.get? name members with
  | none => simp
  | some d => simp [nullable_eq_ok]

/-- It is read from that member alone. -/
theorem Fields.reads_omittable_congr {value : Decoder α} {x : Option α}
    {members' : List (String × Document)}
    (h : Entries.get? name members' = Entries.get? name members) :
    (omittable name value).Reads members' x ↔ (omittable name value).Reads members x := by
  rw [reads_omittable, reads_omittable, h]

/-- A member with a value for its absence. -/
theorem Fields.reads_withDefault {value : Decoder α} {absent x : α} :
    (withDefault name value absent).Reads members x ↔
      (Entries.get? name members = none ∧ absent = x) ∨
        ∃ d, Entries.get? name members = some d ∧ value d = .ok x := by
  simp only [Reads, withDefault, member]
  cases Entries.get? name members <;> simp

/-- The other members do not matter for the value of one. -/
theorem Fields.reads_withDefault_congr {value : Decoder α} {absent x : α}
    {members' : List (String × Document)}
    (h : Entries.get? name members' = Entries.get? name members) :
    (withDefault name value absent).Reads members' x ↔
      (withDefault name value absent).Reads members x := by
  rw [reads_withDefault, reads_withDefault, h]

/-! ### Records -/

/-- An object is read by its members. -/
theorem ofObject_eq_ok {fields : Fields α} {x : α} :
    ofObject fields members = .ok x ↔ fields.Reads members x := by
  rw [ofObject, Fields.Reads]
  cases fields.ofLookup (Entries.get? · members) <;> simp

/-- A document is read as an object iff it is one and its members read. -/
theorem object_eq_ok {fields : Fields α} {d : Document} {x : α} :
    object name fields d = .ok x ↔ ∃ members, d = .obj members ∧ fields.Reads members x := by
  cases d <;> simp [object, wrongKind, ofObject_eq_ok]

/-! ### Lists -/

/-- A list is read item by item. -/
theorem list_eq_ok {item : Decoder α} {d : Document} {ys : List α} :
    list item d = .ok ys ↔
      ∃ items, d = .arr items ∧ List.Forall₂ (fun d y => item d = .ok y) items ys := by
  cases d <;> simp [list, wrongKind, mapM_eq_ok]

/-! ### Tables of strings -/

theorem string_eq_ok {d : Document} {s : String} : string d = .ok s ↔ d = .str s := by
  cases d <;> simp [string, wrongKind]

/-- Members that all read as strings are written strings. -/
theorem mapM_string_eq_ok {members : List (String × Document)}
    {entries : List (String × String)} :
    (members.mapM fun (k, d) => do return (k, ← string d)) = .ok entries ↔
      members = entries.map fun (k, s) => (k, .str s) := by
  -- One member at a time, so that the lists can be compared item by item.
  have hentry : ∀ (p : String × Document) (e : String × String),
      (do return (p.1, ← string p.2) : Except DecodeError (String × String)) = .ok e ↔
        p = (e.1, .str e.2) := by
    rintro ⟨k, d⟩ ⟨k', s⟩
    simp only [bind_eq_ok, string_eq_ok, pure_eq_ok, Prod.mk.injEq]
    constructor
    · rintro ⟨s, rfl, rfl, rfl⟩
      exact ⟨rfl, rfl⟩
    · rintro ⟨rfl, rfl⟩
      exact ⟨s, rfl, rfl, rfl⟩
  rw [mapM_eq_ok, ← List.forall₂_eq_eq_eq, List.forall₂_map_right_iff]
  simp only [hentry]

/-- A table of strings reads back from its object. -/
@[simp] theorem stringTable_ofTable (t : Table String String) :
    stringTable (ofTable t) = .ok t := by
  have htable : Table.ofList t.entries = t := by
    cases t with
    | mk entries hsorted => simp only [Table.ofList, Entries.ofList_of_sorted hsorted]
  rw [ofTable, stringTable, bind_eq_ok]
  exact ⟨t.entries, mapM_string_eq_ok.mpr rfl, congrArg Except.ok htable⟩

/-- A table of strings is read from a sorted object of strings, and that is its written
    form. -/
theorem stringTable_eq_ok {d : Document} {t : Table String String} (hd : d.WellFormed) :
    stringTable d = .ok t ↔ d = ofTable t := by
  constructor
  · intro h
    cases d with
    | obj members =>
      obtain ⟨entries, hentries, ht⟩ := bind_eq_ok.mp h
      obtain rfl := mapM_string_eq_ok.mp hentries
      obtain rfl := pure_eq_ok.mp ht
      -- Members of a well-formed object stand in order, so a table keeps them as they are.
      have hsorted : Entries.Sorted entries := List.pairwise_map.mp hd.1
      simp only [ofTable, Table.ofList, Entries.ofList_of_sorted hsorted]
    | _ => simp [stringTable, wrongKind] at h
  · rintro rfl
    exact stringTable_ofTable t

end Reconciler.Wire
