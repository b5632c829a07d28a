import Reconciler.Document.Basic
import Reconciler.Wire.Record

namespace Reconciler

/-!
# Summary of a difference

The difference between two documents as three counts.  Members that the server
sets by itself do not count.

* `DiffSummary` — the counts;
* `Document.stripServerFields` — a document without the members of the server;
* `Document.compareTo` — the counts of two trees;
* `Document.diff` — the counts without the members of the server.
-/

/-- How many places were added, changed and removed. -/
structure DiffSummary where
  adds : Nat
  updates : Nat
  removes : Nat
deriving DecidableEq, Repr

namespace DiffSummary

/-- No difference. -/
def zero : DiffSummary := ⟨0, 0, 0⟩

instance : Add DiffSummary :=
  ⟨fun s t => ⟨s.adds + t.adds, s.updates + t.updates, s.removes + t.removes⟩⟩

/-- Nothing was added, changed or removed. -/
def isEmpty (s : DiffSummary) : Bool :=
  s.adds == 0 && s.updates == 0 && s.removes == 0

end DiffSummary

namespace Document

/-- The members of `metadata` that the server sets. -/
def serverMetadata : List String :=
  ["managedFields", "resourceVersion", "generation", "creationTimestamp"]

/-- A document without the members that the server sets. -/
def stripServerFields : Document → Document
  | obj members =>
    obj <| (Entries.erase "status" members).map fun (k, d) =>
      match k, d with
      | "metadata", obj metadata =>
        (k, obj (metadata.filter fun e => !serverMetadata.contains e.1))
      | _, _ => (k, d)
  | d => d

mutual

/-- The difference of `target` against `base`.  A member on one side only is one
    addition or removal, whatever it holds; lists are compared position by position;
    any other unequal pair is one change. -/
def compareTo (base : Document) : Document → DiffSummary
  | obj target =>
    match base with
    | obj members =>
      let removed := members.filter fun e => (Entries.get? e.1 target).isNone
      compareMembers members target + ⟨0, 0, removed.length⟩
    | _ => ⟨0, 1, 0⟩
  | arr target =>
    match base with
    | arr items =>
      ⟨target.length - items.length,
        (target.zip items).countP fun (x, y) => !same x y,
        items.length - target.length⟩
    | _ => ⟨0, 1, 0⟩
  | target => ⟨0, if same target base then 0 else 1, 0⟩
termination_by structural target => target

/-- The additions and changes of members. -/
def compareMembers (base : List (String × Document)) : List (String × Document) → DiffSummary
  | [] => DiffSummary.zero
  | (k, d) :: rest =>
    let here :=
      match Entries.get? k base with
      | some b => if same d b then DiffSummary.zero else compareTo b d
      | none => ⟨1, 0, 0⟩
    here + compareMembers base rest
termination_by structural target => target

end

/-- The difference of `target` against `base`, the members of the server aside. -/
def diff (target base : Document) : DiffSummary :=
  compareTo base.stripServerFields target.stripServerFields

end Document

/-! ### Wire form -/

open Wire

/-- Reads a summary. -/
def DiffSummary.decode : Decoder DiffSummary :=
  record "DiffSummary" <|
    DiffSummary.mk <$> required "adds" count <*> required "updates" count
      <*> required "removes" count

/-- Writes a summary. -/
def DiffSummary.encode (s : DiffSummary) : Document :=
  ofParts [("adds", some (.nat s.adds)), ("removes", some (.nat s.removes)),
    ("updates", some (.nat s.updates))]

end Reconciler
