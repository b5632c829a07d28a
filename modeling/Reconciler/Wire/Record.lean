import Reconciler.Wire.Scalar

namespace Reconciler.Wire

/-!
# Reading records

The members of a record are declared once, in order, and the record then reads
from an object, by name, and from a list, by position.

* `Fields` — declared members, an applicative functor;
* `required`, `withDefault`, `omittable` — one member, by what its absence means;
* `record` — the reader of a record;
* `object` — the reader of a record that has no list form.

In an object the first member, in the order of the object, that does not read is
the fault; when all read, the first declared member that is missing.  Members
that are not declared are ignored.
-/

/-- Declared members and the value read from them. -/
structure Fields (α : Type) where
  /-- The number of members. -/
  size : Nat
  /-- The fault of a member of this name, if it is declared and does not read. -/
  fault? : String → Document → Option DecodeError
  /-- Reads the members of an object, which are looked up by name. -/
  ofLookup : (String → Option Document) → Except DecodeError α
  /-- Reads from the elements of a list, the first of which has this position in
      the record; the function makes the fault of a list that ends there. -/
  ofRow : (Nat → DecodeError) → Nat → List Document → Except DecodeError (α × List Document)

namespace Fields

instance : Applicative Fields where
  pure x :=
    { size := 0
      fault? := fun _ _ => none
      ofLookup := fun _ => .ok x
      ofRow := fun _ _ row => .ok (x, row) }
  seq f g :=
    { size := f.size + (g ()).size
      fault? := fun k d => f.fault? k d <|> (g ()).fault? k d
      ofLookup := fun lookup => do
        let h ← f.ofLookup lookup
        let x ← (g ()).ofLookup lookup
        return h x
      ofRow := fun short pos row => do
        let (h, row) ← f.ofRow short pos row
        let (x, row) ← (g ()).ofRow short (pos + f.size) row
        return (h x, row) }

variable {α β : Type}

/-- Two readers read from one lookup, one after the other. -/
theorem ofLookup_seq (f : Fields (α → β)) (g : Fields α) (lookup : String → Option Document) :
    (f <*> g).ofLookup lookup = do
      let h ← f.ofLookup lookup
      let x ← g.ofLookup lookup
      return h x := rfl

/-- A function is applied to what is read. -/
theorem ofLookup_map (h : α → β) (g : Fields α) (lookup : String → Option Document) :
    (h <$> g).ofLookup lookup = do
      let x ← g.ofLookup lookup
      return h x := rfl

end Fields

/-- One member.  `absent` stands for it in an object without it, `absentInRow` in
    a list that ends before it. -/
def member {α : Type} (name : String) (value : Decoder α) (absent absentInRow : Option α) :
    Fields α where
  size := 1
  fault? k d :=
    if k = name then
      match value d with
      | .ok _ => none
      | .error e => some e
    else none
  ofLookup lookup :=
    match lookup name with
    | some d => value d
    | none =>
      match absent with
      | some x => .ok x
      | none => .error (.missingField name)
  ofRow short pos row :=
    match row with
    | d :: rest => do return (← value d, rest)
    | [] =>
      match absentInRow with
      | some x => .ok (x, [])
      | none => .error (short pos)

/-- A member that must be there. -/
def required {α : Type} (name : String) (value : Decoder α) : Fields α :=
  member name value none none

/-- A member with a value for its absence; null is no absence. -/
def withDefault {α : Type} (name : String) (value : Decoder α) (absent : α) : Fields α :=
  member name value (some absent) (some absent)

/-- A member that may be missing or null. -/
def omittable {α : Type} (name : String) (value : Decoder α) : Fields (Option α) :=
  member name (nullable value) (some none) (some none)

/-- A member that may be null, and missing from an object but not from a list. -/
def omittableByName {α : Type} (name : String) (value : Decoder α) : Fields (Option α) :=
  member name (nullable value) (some none) none

/-- Reads the members of an object. -/
def ofObject {α : Type} (fields : Fields α) (members : List (String × Document)) :
    Except DecodeError α :=
  match fields.ofLookup (Entries.get? · members) with
  | .ok x => .ok x
  | .error missing =>
    .error ((members.findSome? fun (k, d) => fields.fault? k d).getD missing)

/-- A record, from an object or from a list. -/
def record {α : Type} (name : String) (fields : Fields α) : Decoder α
  | .obj members => ofObject fields members
  | .arr row => do
    let (x, rest) ← fields.ofRow (.tooFewElements · name fields.size) 0 row
    if rest.isEmpty then return x else throw (.tooManyElements row.length)
  | d => wrongKind d ("struct " ++ name)

/-- A record, from an object only. -/
def object {α : Type} (name : String) (fields : Fields α) : Decoder α
  | .obj members => ofObject fields members
  | d => wrongKind d name

/-- An object reads as a record whenever its members do. -/
theorem record_obj {α : Type} {name : String} {fields : Fields α} {x : α}
    {members : List (String × Document)}
    (h : fields.ofLookup (Entries.get? · members) = .ok x) :
    record name fields (.obj members) = .ok x := by
  simp [record, ofObject, h]

/-- A written object reads as a record whenever its parts do. -/
theorem record_ofParts {α : Type} {name : String} {fields : Fields α} {x : α}
    {parts : List (String × Option Document)} (h : fields.ofLookup (part? · parts) = .ok x) :
    record name fields (ofParts parts) = .ok x :=
  record_obj (by simpa only [get?_ofParts] using h)

end Reconciler.Wire
