import Reconciler.Entries
import Reconciler.Number.Basic

namespace Reconciler

/-!
# Documents

A document is a tree of objects, lists and scalars.  The members of an object
are kept in increasing order of their keys, so that two documents with the same
members are the same tree.

* `Document` — the tree;
* `Document.WellFormed` — every object in it is sorted by key;
* `Document.same` — equality as values;
* `Document.kind` — the kind of the root, which messages name;
* `Document.member?` — a member of an object.
-/

/-- A tree of objects, lists and scalars. -/
inductive Document where
  | null
  | bool (b : Bool)
  | num (n : Number)
  | str (s : String)
  | arr (items : List Document)
  | obj (members : List (String × Document))
deriving Inhabited

namespace Document

/-- The integer `n`. -/
def int (n : Int) : Document := num (.int n)

/-- The count `n`. -/
def nat (n : Nat) : Document := num (.int n)

/-! ### Sorted objects -/

mutual

/-- Every object in the tree has its members in strictly increasing key order. -/
def WellFormed : Document → Prop
  | arr items => AllWellFormed items
  | obj members => Entries.Sorted members ∧ MembersWellFormed members
  | _ => True
termination_by structural d => d

/-- `WellFormed`, for each item of a list. -/
def AllWellFormed : List Document → Prop
  | [] => True
  | d :: rest => WellFormed d ∧ AllWellFormed rest
termination_by structural items => items

/-- `WellFormed`, for the value of each member. -/
def MembersWellFormed : List (String × Document) → Prop
  | [] => True
  | (_, d) :: rest => WellFormed d ∧ MembersWellFormed rest
termination_by structural members => members

end

/-- The items of a list are well formed one by one. -/
theorem allWellFormed_iff {items : List Document} :
    AllWellFormed items ↔ ∀ d ∈ items, WellFormed d := by
  induction items with
  | nil => simp [AllWellFormed]
  | cons d rest ih => simp [AllWellFormed, ih]

/-- The members of an object are well formed one by one. -/
theorem membersWellFormed_iff {members : List (String × Document)} :
    MembersWellFormed members ↔ ∀ e ∈ members, WellFormed e.2 := by
  induction members with
  | nil => simp [MembersWellFormed]
  | cons e rest ih => simp [MembersWellFormed, ih]

mutual

/-- Decides `WellFormed`. -/
def decideWellFormed : (d : Document) → Decidable (WellFormed d)
  | null => inferInstanceAs (Decidable True)
  | bool _ => inferInstanceAs (Decidable True)
  | num _ => inferInstanceAs (Decidable True)
  | str _ => inferInstanceAs (Decidable True)
  | arr items => decideAllWellFormed items
  | obj members =>
    have := decideMembersWellFormed members
    inferInstanceAs (Decidable (Entries.Sorted members ∧ MembersWellFormed members))
termination_by structural d => d

/-- Decides `AllWellFormed`. -/
def decideAllWellFormed : (items : List Document) → Decidable (AllWellFormed items)
  | [] => inferInstanceAs (Decidable True)
  | d :: rest =>
    have := decideWellFormed d
    have := decideAllWellFormed rest
    inferInstanceAs (Decidable (WellFormed d ∧ AllWellFormed rest))
termination_by structural items => items

/-- Decides `MembersWellFormed`. -/
def decideMembersWellFormed :
    (members : List (String × Document)) → Decidable (MembersWellFormed members)
  | [] => inferInstanceAs (Decidable True)
  | (_, d) :: rest =>
    have := decideWellFormed d
    have := decideMembersWellFormed rest
    inferInstanceAs (Decidable (WellFormed d ∧ MembersWellFormed rest))
termination_by structural members => members

end

instance (d : Document) : Decidable d.WellFormed := decideWellFormed d

/-! ### Equality as values -/

mutual

/-- Equality of documents as values: the trees agree, where `0.0` agrees with
    `-0.0` and no integer agrees with a double. -/
def same : Document → Document → Bool
  | null, null => true
  | bool a, bool b => a == b
  | num m, num n => m.same n
  | str s, str t => s == t
  | arr xs, arr ys => sameItems xs ys
  | obj xs, obj ys => sameMembers xs ys
  | _, _ => false
termination_by structural d => d

/-- `same`, item by item. -/
def sameItems : List Document → List Document → Bool
  | [], [] => true
  | x :: xs, y :: ys => same x y && sameItems xs ys
  | _, _ => false
termination_by structural xs => xs

/-- `same`, member by member in key order. -/
def sameMembers : List (String × Document) → List (String × Document) → Bool
  | [], [] => true
  | (k, x) :: xs, (k', y) :: ys => k == k' && (same x y && sameMembers xs ys)
  | _, _ => false
termination_by structural xs => xs

end

/-! ### Kinds -/

/-- The kind of the root of a document. -/
inductive Kind where
  | null
  | bool
  | number
  | string
  | array
  | object
deriving DecidableEq, Repr

/-- The word for a kind in messages. -/
def Kind.word : Kind → String
  | null => "null"
  | bool => "bool"
  | number => "number"
  | string => "string"
  | array => "array"
  | object => "object"

/-- The kind of the root. -/
def kind : Document → Kind
  | null => .null
  | bool _ => .bool
  | num _ => .number
  | str _ => .string
  | arr _ => .array
  | obj _ => .object

/-- A document without content. -/
def isNull : Document → Bool
  | null => true
  | _ => false

/-- The members of an object. -/
def members? : Document → Option (List (String × Document))
  | obj members => some members
  | _ => none

/-- A member of an object. -/
def member? (k : String) : Document → Option Document
  | obj members => Entries.get? k members
  | _ => none

/-- The text that selectors compare a scalar with: a string itself, a boolean or
    a number as it is written. -/
def scalarText? : Document → Option String
  | str s => some s
  | num n => some (String.ofList n.text)
  | bool b => some (if b then "true" else "false")
  | _ => none

/-- An object of the given members, in any order. -/
def ofMembers (members : List (String × Document)) : Document :=
  obj (Entries.ofList members)

end Document

end Reconciler
