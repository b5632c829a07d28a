import Mathlib.Data.List.Forall2
import Reconciler.Document.Basic
import Reconciler.Proofs.Entries

namespace Reconciler

/-!
# Equality of documents as values

Two documents are the same when they are equal but for the signs of their zeros.

* `Document.unsignedZeros` — the document with every zero written without a sign;
* `Document.same_iff` — documents are the same just when they are equal in this form;
* `same_self`, `same_comm` — a document is the same as itself, and neither of two comes first;
* `same_str`, `same_bool` — a text or a truth value is the same as no other document;
* `eq_of_sameMembers`, `sameMembers_iff_get?` — the members of the same objects;
* `sameItems_iff` — the items of the same lists.
-/

/-! ### Numbers -/

/-- The double, where zero has no sign. -/
def Binary64.unsignedZero (x : Binary64) : Binary64 :=
  if x.isZero then ⟨0⟩ else x

theorem Binary64.isZero_zero : (⟨0⟩ : Binary64).isZero = true := by decide

/-- Two floats are the same when they are without the signs of zeros. -/
theorem Binary64.same_iff {x y : Binary64} :
    x.same y = true ↔ x.unsignedZero = y.unsignedZero := by
  have hbits : x.bits = y.bits ↔ x = y := by
    cases x
    cases y
    simp
  simp only [same, unsignedZero, Bool.or_eq_true, Bool.and_eq_true, beq_iff_eq, hbits]
  -- Where one of the two is zero and the other is not, they differ before and after.
  by_cases hx : x.isZero = true <;> by_cases hy : y.isZero = true
  · simp [hx, hy]
  · have hne : x ≠ y := fun h => hy (h ▸ hx)
    have hne' : ⟨0⟩ ≠ y := fun h => hy (h ▸ isZero_zero)
    simp [hx, hy, hne, hne']
  · have hne : x ≠ y := fun h => hx (h ▸ hy)
    have hne' : x ≠ ⟨0⟩ := fun h => hx (h ▸ isZero_zero)
    simp [hx, hy, hne, hne']
  · simp [hx, hy]

/-- The number, where zero has no sign. -/
def Number.unsignedZero : Number → Number
  | int n => int n
  | float x => float x.unsignedZero

/-- Two numbers are the same when they are without the signs of zeros. -/
theorem Number.same_iff {m n : Number} :
    m.same n = true ↔ m.unsignedZero = n.unsignedZero := by
  cases m <;> cases n <;> simp [same, unsignedZero, Binary64.same_iff]

namespace Document

/-! ### Documents -/

mutual

/-- The document, where no zero has a sign. -/
def unsignedZeros : Document → Document
  | num n => num n.unsignedZero
  | arr items => arr (unsignedItems items)
  | obj members => obj (unsignedMembers members)
  | null => null
  | bool b => bool b
  | str s => str s
termination_by structural d => d

/-- `unsignedZeros`, for each item of a list. -/
def unsignedItems : List Document → List Document
  | [] => []
  | d :: rest => d.unsignedZeros :: unsignedItems rest
termination_by structural items => items

/-- `unsignedZeros`, for the value of each member. -/
def unsignedMembers : List (String × Document) → List (String × Document)
  | [] => []
  | (k, d) :: rest => (k, d.unsignedZeros) :: unsignedMembers rest
termination_by structural members => members

end

mutual

/-- Documents are the same just when they are equal but for the signs of their zeros. -/
theorem same_iff : ∀ a b : Document, a.same b = true ↔ a.unsignedZeros = b.unsignedZeros
  | null, b => by cases b <;> simp [same, unsignedZeros]
  | bool x, b => by cases b <;> simp [same, unsignedZeros]
  | num x, b => by cases b <;> simp [same, unsignedZeros, Number.same_iff]
  | str x, b => by cases b <;> simp [same, unsignedZeros]
  | arr xs, b => by cases b <;> simp [same, unsignedZeros, sameItems_iff_unsigned xs]
  | obj xs, b => by cases b <;> simp [same, unsignedZeros, sameMembers_iff_unsigned xs]
termination_by structural a => a

/-- Two lists of items are the same when they are without the signs of zeros. -/
theorem sameItems_iff_unsigned : ∀ xs ys : List Document,
    sameItems xs ys = true ↔ unsignedItems xs = unsignedItems ys
  | [], ys => by cases ys <;> simp [sameItems, unsignedItems]
  | x :: xs, ys => by
    cases ys with
    | nil => simp [sameItems, unsignedItems]
    | cons y ys => simp [sameItems, unsignedItems, same_iff x y, sameItems_iff_unsigned xs ys]
termination_by structural xs => xs

/-- Two lists of members are the same when they are without the signs of zeros. -/
theorem sameMembers_iff_unsigned : ∀ xs ys : List (String × Document),
    sameMembers xs ys = true ↔ unsignedMembers xs = unsignedMembers ys
  | [], ys => by cases ys <;> simp [sameMembers, unsignedMembers]
  | (k, x) :: xs, ys => by
    cases ys with
    | nil => simp [sameMembers, unsignedMembers]
    | cons e ys =>
      obtain ⟨k', y⟩ := e
      simp [sameMembers, unsignedMembers, same_iff x y, sameMembers_iff_unsigned xs ys, and_assoc]
termination_by structural xs => xs

end

/-- A document is the same as itself. -/
theorem same_self (d : Document) : d.same d = true :=
  (same_iff d d).mpr rfl

/-- Neither of two documents comes first. -/
theorem same_comm (a b : Document) : a.same b = b.same a := by
  rw [Bool.eq_iff_iff, same_iff, same_iff, eq_comm]

/-! ### What is the same as a scalar -/

/-- Only the text itself is the same as a text. -/
theorem same_str {d : Document} {s : String} : d.same (.str s) = true ↔ d = .str s := by
  cases d <;> simp [same]

/-- Only the truth value itself is the same as a truth value. -/
theorem same_bool {d : Document} {b : Bool} : d.same (.bool b) = true ↔ d = .bool b := by
  cases d <;> simp [same]

/-! ### What is the same as an object or a list -/

/-- Objects are the same one member after the other. -/
theorem sameMembers_cons {k : String} {x : Document} {xs ys : List (String × Document)} :
    sameMembers ys ((k, x) :: xs) = true ↔
      ∃ y rest, ys = (k, y) :: rest ∧ y.same x = true ∧ sameMembers rest xs = true := by
  cases ys with
  | nil => simp [sameMembers]
  | cons e rest =>
    obtain ⟨k', y⟩ := e
    simp only [sameMembers, Bool.and_eq_true, beq_iff_eq]
    constructor
    · rintro ⟨rfl, hsame, hrest⟩
      exact ⟨y, rest, rfl, hsame, hrest⟩
    · rintro ⟨y', rest', heq, hsame, hrest⟩
      obtain ⟨hentry, rfl⟩ := List.cons.inj heq
      obtain ⟨rfl, rfl⟩ := Prod.mk.inj hentry
      exact ⟨rfl, hsame, hrest⟩

/-- Members that are each the same as no other document make an object that is the same as no
    other. -/
theorem eq_of_sameMembers {xs ys : List (String × Document)}
    (hxs : ∀ e ∈ xs, ∀ y, Document.same y e.2 = true → y = e.2)
    (h : sameMembers ys xs = true) : ys = xs := by
  -- On the members that are known; the others follow them one by one.
  induction xs generalizing ys with
  | nil =>
    cases ys with
    | nil => rfl
    | cons e rest => simp [sameMembers] at h
  | cons e xs ih =>
    obtain ⟨k, x⟩ := e
    obtain ⟨y, rest, rfl, hsame, hrest⟩ := sameMembers_cons.mp h
    rw [List.forall_mem_cons] at hxs
    rw [hxs.1 y hsame, ih hxs.2 hrest]

/-- Objects that are the same have the same member under every key, or both have none. -/
theorem same_get?_of_sameMembers {xs ys : List (String × Document)}
    (h : sameMembers ys xs = true) (k : String) :
    Option.Rel (fun y x => Document.same y x = true) (Entries.get? k ys) (Entries.get? k xs) := by
  induction xs generalizing ys with
  | nil =>
    cases ys with
    | nil => exact .none
    | cons e rest => simp [sameMembers] at h
  | cons e xs ih =>
    obtain ⟨k', x⟩ := e
    obtain ⟨y, rest, rfl, hsame, hrest⟩ := sameMembers_cons.mp h
    rw [Entries.get?_cons, Entries.get?_cons]
    -- The key is that of the first members, or both lookups go on to the rest.
    by_cases hk : k = k'
    · rw [if_pos hk, if_pos hk]
      exact .some hsame
    · rw [if_neg hk, if_neg hk]
      exact ih hrest

/-- Sorted objects are the same when they have the same member under every key, or both have
    none. -/
theorem sameMembers_iff_get? {xs ys : List (String × Document)} (hxs : Entries.Sorted xs)
    (hys : Entries.Sorted ys) :
    sameMembers ys xs = true ↔ ∀ k,
      Option.Rel (fun y x => Document.same y x = true) (Entries.get? k ys) (Entries.get? k xs) := by
  refine ⟨same_get?_of_sameMembers, fun h => ?_⟩
  -- Where the keys are the same, the members stand beside each other.
  have hkeys : ys.map (·.1) = xs.map (·.1) := hys.keys_eq hxs fun k => by
    have hk := h k
    cases hy : Entries.get? k ys <;> cases hx : Entries.get? k xs <;> simp_all
  induction xs generalizing ys with
  | nil =>
    obtain rfl := List.map_eq_nil_iff.mp hkeys
    rfl
  | cons e xs ih =>
    obtain ⟨k, x⟩ := e
    obtain ⟨⟨k', y⟩, rest, rfl, hk, hrest⟩ := List.map_eq_cons_iff.mp hkeys
    obtain rfl : k' = k := hk
    have hhead := h k'
    rw [Entries.get?_cons, Entries.get?_cons, if_pos rfl, if_pos rfl] at hhead
    obtain ⟨hsame⟩ := hhead
    refine sameMembers_cons.mpr ⟨y, rest, rfl, hsame, ?_⟩
    refine ih (List.pairwise_cons.mp hxs).2 (List.pairwise_cons.mp hys).2 (fun j => ?_) hrest
    by_cases hj : j = k'
    · rw [hj, hxs.get?_tail, hys.get?_tail]
      exact .none
    · have htail := h j
      rwa [Entries.get?_cons, Entries.get?_cons, if_neg hj, if_neg hj] at htail

/-- Lists are the same item by item. -/
theorem sameItems_iff {xs ys : List Document} :
    sameItems ys xs = true ↔ List.Forall₂ (fun y x => Document.same y x = true) ys xs := by
  induction xs generalizing ys with
  | nil => cases ys <;> simp [sameItems]
  | cons x xs ih => cases ys <;> simp [sameItems, ih]

end Document

end Reconciler
