import Reconciler.Path.Basic

namespace Reconciler

/-!
# Reading and writing at a path

* `Document.walk` — the value that a list of steps leads to;
* `Document.write` — the document with a value put where the steps lead, and the
  fault if they do not get there;
* `FieldPath.get?`, `FieldPath.set` — the same for a path.
-/

namespace Document

/-- Follows the steps from `d`.  A missing key, a position past the end and a step
    into a value of another kind lead nowhere. -/
def walk : List Segment → Document → Option Document
  | [], d => some d
  | .key k :: rest, obj members => (Entries.get? k members).bind (walk rest)
  | .index i :: rest, arr items => (items[i]?).bind (walk rest)
  | _ :: _, _ => none

/-- The members that a key can be set among: those of an object, and none yet
    where there is no value. -/
def openMembers? : Document → Option (List (String × Document))
  | obj members => some members
  | null => some []
  | _ => none

/-- Puts `v` where the steps lead from `d`.  On the way a key makes an object of
    `null` and a member of what is missing; a position must exist.  When a step
    fails, the members made before it stay.  `pos` numbers the first step. -/
def write (v : Document) (pos : Nat) : List Segment → Document → Document × Option WriteFault
  | [], _ => (v, none)
  | .key k :: rest, d =>
    match d.openMembers? with
    | some members =>
      let (child, fault) := write v (pos + 1) rest ((Entries.get? k members).getD null)
      (obj (Entries.insert k child members), fault)
    | none => (d, some (.mismatch pos .object d.kind))
  | .index i :: rest, arr items =>
    match items[i]? with
    | some item =>
      let (child, fault) := write v (pos + 1) rest item
      (arr (items.set i child), fault)
    | none => (arr items, some (.outOfBounds i items.length))
  | .index _ :: _, d => (d, some (.mismatch pos .array d.kind))

end Document

namespace FieldPath

/-- The value at the path. -/
def get? (p : FieldPath) (d : Document) : Option Document :=
  d.walk p.segments

/-- The document after putting `v` at the path, and the failure, if any. -/
def set (p : FieldPath) (v : Document) (d : Document) : Document × Option PathError :=
  let (d', fault) := Document.write v 0 p.segments d
  (d', fault.map (.write p.raw))

end FieldPath

end Reconciler
