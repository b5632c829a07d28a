import Reconciler.Proofs.Document.Equality
import Reconciler.Resource.Basic

namespace Reconciler

/-!
# Equality of resources as values

Resources are compared part by part, after two quick tests: of what identifies them, and of the
sizes of their collections.  The tests change nothing, since resources that are equal in every part
pass them.

* `ComparedBy` — a comparison that is the equality of what a function makes of the values;
* `Resource.unsignedZeros` — a resource with every zero of its documents written without a sign;
* `Resource.comparedBy_unsignedZeros` — the comparison of all parts;
* `Resource.sameIdentity_iff`, `Resource.same_eq_beq` — the quick tests;
* `Resource.same_faithful` — both comparisons together.
-/

/-! ### Comparisons -/

/-- Values are compared by what the function makes of them. -/
def ComparedBy {α β : Type} [BEq α] (f : α → β) : Prop :=
  ∀ x y, (x == y) = true ↔ f x = f y

namespace ComparedBy

variable {α β κ : Type} [BEq α] {f : α → β}

/-- Values that may be missing are compared by what is made of them. -/
theorem option (h : ComparedBy f) : ComparedBy (Option.map f) := by
  intro x y
  cases x with
  | none => cases y <;> simp
  | some x =>
    cases y with
    | none => simp
    | some y => simp [h x y]

theorem list (h : ComparedBy f) : ComparedBy (List.map f) := by
  intro xs ys
  induction xs generalizing ys with
  | nil => cases ys <;> simp
  | cons x xs ih =>
    cases ys with
    | nil => simp
    | cons y ys => simp [h x y, ih ys]

/-- Entries are compared by their keys and by what is made of their values. -/
theorem entry [BEq κ] [LawfulBEq κ] (h : ComparedBy f) :
    ComparedBy fun e : κ × α => (e.1, f e.2) := by
  rintro ⟨k, x⟩ ⟨k', y⟩
  show (k == k' && x == y) = true ↔ (k, f x) = (k', f y)
  rw [Bool.and_eq_true, beq_iff_eq, h x y, Prod.mk.injEq]

end ComparedBy

/-- Tables of comparable entries are compared as such. -/
instance {κ α : Type} [Ord κ] [BEq κ] [BEq α] [LawfulBEq κ] [LawfulBEq α] :
    LawfulBEq (Table κ α) where
  rfl {t} := BEq.rfl (a := t.entries)
  eq_of_beq {t u} h := by
    have hentries : t.entries = u.entries := eq_of_beq h
    cases t
    cases u
    cases hentries
    rfl

/-! ### The parts of a resource -/

theorem Document.comparedBy_unsignedZeros : ComparedBy unsignedZeros :=
  same_iff

/-- The entry, where no zero of its document has a sign. -/
def ManagedFields.unsignedZeros (f : ManagedFields) : ManagedFields :=
  { f with fieldsV1 := f.fieldsV1.map Document.unsignedZeros }

/-- Entries of managed fields have a document in them, and so they are compared as documents are. -/
theorem ManagedFields.comparedBy_unsignedZeros : ComparedBy unsignedZeros := by
  rintro ⟨_⟩ ⟨_⟩
  show instBEqManagedFields.beq _ _ = true ↔ _
  simp only [instBEqManagedFields.beq, unsignedZeros, mk.injEq, Bool.and_eq_true, beq_iff_eq,
    Document.comparedBy_unsignedZeros.option _ _]

/-- The metadata, where no zero in the managed fields has a sign. -/
def Metadata.unsignedZeros (m : Metadata) : Metadata :=
  { m with managedFields := m.managedFields.map (List.map ManagedFields.unsignedZeros) }

/-- Only managed fields have documents among metadata, and all the rest is compared as it is. -/
theorem Metadata.comparedBy_unsignedZeros : ComparedBy unsignedZeros := by
  rintro ⟨_⟩ ⟨_⟩
  show instBEqMetadata.beq _ _ = true ↔ _
  simp only [instBEqMetadata.beq, unsignedZeros, mk.injEq, Bool.and_eq_true, beq_iff_eq,
    ManagedFields.comparedBy_unsignedZeros.list.option _ _]

namespace Resource

/-- The resource, where no zero has a sign. -/
def unsignedZeros (r : Resource) : Resource :=
  { r with
    metadata := r.metadata.unsignedZeros
    data := r.data.map fun e => (e.1, e.2.unsignedZeros) }

/-- All parts of two resources are compared without the signs of zeros. -/
theorem comparedBy_unsignedZeros : ComparedBy unsignedZeros := by
  rintro ⟨_⟩ ⟨_⟩
  show instBEqResource.beq _ _ = true ↔ _
  simp only [instBEqResource.beq, unsignedZeros, mk.injEq, Bool.and_eq_true, beq_iff_eq,
    Metadata.comparedBy_unsignedZeros _ _, Document.comparedBy_unsignedZeros.entry.list _ _]

/-! ### The quick tests -/

variable {a b : Resource}

/-- The first quick test compares what identifies the resources. -/
theorem sameIdentity_iff : a.sameIdentity b = true ↔ a.identity = b.identity := by
  simp [sameIdentity, identity, id, and_assoc]

/-- Equal metadata passes the second quick test. -/
theorem sameSizes_self (m : Metadata) : sameSizes m m = true := by
  simp [sameSizes]

theorem identity_unsignedZeros (r : Resource) : r.unsignedZeros.identity = r.identity := rfl

/-- The signs of zeros do not count in the collections. -/
theorem sameSizes_unsignedZeros (a b : Resource) :
    sameSizes a.unsignedZeros.metadata b.unsignedZeros.metadata =
      sameSizes a.metadata b.metadata := rfl

/-- Resources that are equal in every part pass the quick tests. -/
theorem same_eq_beq (a b : Resource) : a.same b = (a == b) := by
  rw [Bool.eq_iff_iff, same, Bool.and_eq_true, Bool.and_eq_true, and_iff_right_iff_imp]
  intro h
  have hequal : a.unsignedZeros = b.unsignedZeros := (comparedBy_unsignedZeros a b).mp h
  constructor
  · rw [sameIdentity_iff, ← identity_unsignedZeros a, hequal, identity_unsignedZeros]
  · rw [← sameSizes_unsignedZeros, hequal]
    exact sameSizes_self _

/-- The comparison finds what the comparison of all parts finds. -/
theorem same_iff : a.same b = true ↔ a.unsignedZeros = b.unsignedZeros := by
  rw [same_eq_beq]
  exact comparedBy_unsignedZeros a b

/-- Every resource equals itself. -/
theorem same_self (r : Resource) : r.same r = true :=
  same_iff.mpr rfl

/-! ### Identities -/

/-- A text that is empty counts as none, and none as an empty one. -/
theorem unlessEmpty_eq_iff {s t : Option String} :
    unlessEmpty s = unlessEmpty t ↔ s.getD "" = t.getD "" := by
  -- A text that is dropped for being empty has the empty text as its default.
  have hgetD : ∀ s : Option String, (unlessEmpty s).getD "" = s.getD "" := by
    intro s
    cases s with
    | none => rfl
    | some s => by_cases hs : s = "" <;> simp [unlessEmpty, Option.filter, hs]
  have hunless : ∀ s : Option String, unlessEmpty s = unlessEmpty (some (s.getD "")) := by
    intro s
    cases s <;> rfl
  constructor
  · intro h
    rw [← hgetD s, ← hgetD t, h]
  · intro h
    rw [hunless s, hunless t, h]

/-- Two resources are identified in the same way iff they agree in type, namespace, name and uid,
    where an empty namespace or name is as good as none. -/
theorem identity_eq_iff :
    a.identity = b.identity ↔
      a.apiVersion = b.apiVersion ∧ a.kind = b.kind ∧
        a.metadata.namespaceName.getD "" = b.metadata.namespaceName.getD "" ∧
        a.metadata.name.getD "" = b.metadata.name.getD "" ∧ a.metadata.uid = b.metadata.uid := by
  simp only [identity, id, Identity.mk.injEq, ResourceId.mk.injEq, namespaceName, name, uid,
    unlessEmpty_eq_iff, and_assoc]

/-! ### Both comparisons -/

/-- The comparison of two resources is the one of all their parts, whatever its quick tests say,
    and so neither of the two comes first.  It holds where they are equal but for the signs of
    zeros.  They have the same identity when their types, their namespaces, their names and their
    uids agree, where a namespace that is empty is none. -/
theorem same_faithful (a b : Resource) :
    a.same b = (a == b) ∧ (a.same b = true ↔ a.unsignedZeros = b.unsignedZeros) ∧
      a.same b = b.same a ∧ (a.sameIdentity b = true ↔ a.identity = b.identity) ∧
      (a.identity = b.identity ↔
        a.apiVersion = b.apiVersion ∧ a.kind = b.kind ∧
          a.metadata.namespaceName.getD "" = b.metadata.namespaceName.getD "" ∧
          a.metadata.name.getD "" = b.metadata.name.getD "" ∧
          a.metadata.uid = b.metadata.uid) := by
  have hcomm : a.same b = b.same a := by
    rw [Bool.eq_iff_iff, same_iff, same_iff, eq_comm]
  exact ⟨same_eq_beq a b, same_iff, hcomm, sameIdentity_iff, identity_eq_iff⟩

/-- Either zero is the same weight.  No labels and an empty table of them count alike in the quick
    tests, and are not the same. -/
example :
    let pod (labels : Option (Table String String)) (weight : UInt64) : Resource :=
      ⟨"v1", "Pod", { Metadata.empty with labels, name := some "web" },
        [("weight", .num (.float ⟨weight⟩))]⟩
    (pod none 0).same (pod none 0x8000000000000000) = true ∧
      (pod none 0).sameIdentity (pod (some Table.empty) 0) = true ∧
      sameSizes (pod none 0).metadata (pod (some Table.empty) 0).metadata = true ∧
      (pod none 0).same (pod (some Table.empty) 0) = false := by
  decide +kernel

end Resource

end Reconciler
