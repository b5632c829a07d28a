import Reconciler.Document.Merge
import Reconciler.Path.Access

namespace Reconciler.Document

/-!
# What a merge does to members and to the value at a path

Two objects are merged member by member.  An update merges a patch into a document, and the
patch also counts as last applied.

* `mergedMembers`, `get?_mergedMembers` — the members of a merged object, and where the value
  of each comes from;
* `Leaves`, `StopsAfter`, `leaves_iff` — a patch says nothing about the value at a path, in terms
  of its members and in terms of the way along the path;
* `walk_merge_of_leaves` — a value that the patch leaves is the observed one;
* `walk_merge_eq_some` — where the other values of a patched document come from.
-/

/-! ### Members -/

/-- What two objects are merged into. -/
def mergedMembers (observed : List (String × Document)) (l : Document)
    (desired : List (String × Document)) : List (String × Document) :=
  let last := l.members?.getD []
  mergeMembers observed last (withdraw observed last desired) desired

/-- Two objects are merged member by member. -/
theorem merge_obj (observed : List (String × Document)) (l : Document)
    (desired : List (String × Document)) :
    merge (obj observed) l (obj desired) = obj (mergedMembers observed l desired) := by
  rw [merge]
  rfl

/-- A document that is no object has no members. -/
theorem get?_members? (k : String) (d : Document) :
    Entries.get? k (d.members?.getD []) = d.member? k := by
  cases d <;> rfl

/-- A member of the merged object: merged, added, withdrawn, or left as it is. -/
theorem get?_mergedMembers (k : String) (observed : List (String × Document)) (l : Document)
    (desired : List (String × Document)) :
    Entries.get? k (mergedMembers observed l desired) =
      match Entries.get? k desired with
      | some d =>
        some <|
          match Entries.get? k observed with
          | some o => merge o ((l.member? k).getD null) d
          | none => d
      | none => if (l.member? k).isSome then none else Entries.get? k observed := by
  rw [mergedMembers, get?_mergeMembers, get?_withdraw, get?_members?]
  cases Entries.get? k desired with
  | some d => rfl
  | none => cases l.member? k <;> rfl

/-- A patch withdraws nothing: its own members are the ones that were applied last. -/
theorem get?_mergedMembers_self (k : String) (observed desired : List (String × Document)) :
    Entries.get? k (mergedMembers observed (obj desired) desired) =
      match Entries.get? k desired with
      | some d =>
        some <|
          match Entries.get? k observed with
          | some o => merge o d d
          | none => d
      | none => Entries.get? k observed := by
  rw [get?_mergedMembers, member?]
  cases Entries.get? k desired <;> rfl

/-- Two objects are merged member by member, and anything else is replaced. -/
theorem merge_eq_or (o l d : Document) :
    (∃ observed desired, o = obj observed ∧ d = obj desired) ∨ merge o l d = d := by
  cases d with
  | obj desired =>
    cases o with
    | obj observed => exact .inl ⟨observed, desired, rfl, rfl⟩
    | _ => exact .inr rfl
  | _ => exact .inr rfl

/-! ### Patches -/

/-- The steps lead from `d` to an object that lacks the next key. -/
def Leaves : List Segment → Document → Prop
  | .key k :: rest, obj members =>
    match Entries.get? k members with
    | some d => Leaves rest d
    | none => True
  | _, _ => False

/-- A path leaves a document at an object. -/
theorem kind_of_leaves {steps : List Segment} {d : Document} (h : d.Leaves steps) :
    d.kind = .object := by
  cases d with
  | obj members => rfl
  | _ => cases steps with
    | nil => exact h.elim
    | cons s rest => cases s <;> exact h.elim

/-- A path leaves an object at once, or further down in the member that it goes on with. -/
theorem leaves_obj {k : String} {rest : List Segment} {members : List (String × Document)} :
    (obj members).Leaves (.key k :: rest) ↔ ∀ d ∈ Entries.get? k members, d.Leaves rest := by
  rw [Leaves]
  cases Entries.get? k members <;> simp

/-- The steps begin with this way, which leads from `d` to an object, and the next step is a key
    that the object lacks. -/
def StopsAfter (way steps : List Segment) (d : Document) : Prop :=
  ∃ k rest members, steps = way ++ .key k :: rest ∧ d.walk way = some (obj members) ∧
    Entries.get? k members = none

/-- A patch leaves the value at a path when the path stops in it after nothing but keys. -/
theorem leaves_iff {steps : List Segment} {d : Document} :
    d.Leaves steps ↔ ∃ keys : List String, d.StopsAfter (keys.map .key) steps := by
  -- On the path in one direction, and on the keys before the missing one in the other.
  constructor
  · intro h
    induction steps generalizing d with
    | nil => exact h.elim
    | cons s rest ih =>
      cases s with
      | index i => exact h.elim
      | key k =>
        cases d with
        | obj members =>
          cases hk : Entries.get? k members with
          | none => exact ⟨[], k, rest, members, rfl, rfl, hk⟩
          | some d' =>
            obtain ⟨keys, k', rest', members', hsteps, hwalk, hnone⟩ := ih (leaves_obj.mp h d' hk)
            refine ⟨k :: keys, k', rest', members', congrArg _ hsteps, ?_, hnone⟩
            rw [List.map_cons, walk, hk]
            exact hwalk
        | _ => exact h.elim
  · rintro ⟨keys, k, rest, members, rfl, hwalk, hnone⟩
    induction keys generalizing d with
    | nil =>
      obtain rfl := Option.some.inj hwalk
      refine leaves_obj.mpr fun d hd => ?_
      rw [hnone] at hd
      cases hd
    | cons key keys ih =>
      rw [List.map_cons] at hwalk ⊢
      cases d with
      | obj members' =>
        obtain ⟨d', hd', hwalk⟩ := Option.bind_eq_some_iff.mp hwalk
        refine leaves_obj.mpr fun x hx => ?_
        obtain rfl := Option.some.inj (hd'.symm.trans hx)
        exact ih hwalk
      | _ => cases hwalk

/-- Where a path leaves a document there is nothing. -/
theorem walk_eq_none_of_leaves {steps : List Segment} {d : Document} (h : d.Leaves steps) :
    d.walk steps = none := by
  -- On the steps: a document leaves them only where it ends on the way.
  induction steps generalizing d with
  | nil => exact h.elim
  | cons s rest ih =>
    cases s with
    | index i => exact h.elim
    | key k =>
      cases d with
      | obj members =>
        rw [Leaves] at h
        rw [walk]
        cases hk : Entries.get? k members with
        | none => rfl
        | some d' =>
          rw [hk] at h
          exact ih h
      | _ => exact h.elim

/-- The members of a patched object, each as the patch and the observed object give it. -/
theorem walk_merge_obj (k : String) (rest : List Segment)
    (observed desired : List (String × Document)) :
    (merge (obj observed) (obj desired) (obj desired)).walk (.key k :: rest) =
      match Entries.get? k desired with
      | some d =>
        match Entries.get? k observed with
        | some o => (merge o d d).walk rest
        | none => d.walk rest
      | none => (obj observed).walk (.key k :: rest) := by
  rw [merge_obj, walk, get?_mergedMembers_self]
  cases Entries.get? k desired with
  | none => rfl
  | some d => cases Entries.get? k observed <;> rfl

/-! ### Values at a path -/

/-- A value that the patch leaves is the observed one. -/
theorem walk_merge_of_leaves {steps : List Segment} {d : Document} (h : d.Leaves steps)
    (o : Document) : (merge o d d).walk steps = o.walk steps := by
  -- On the path.  A patch that leaves it is an object up to the missing key.
  induction steps generalizing o d with
  | nil => exact h.elim
  | cons s rest ih =>
    cases s with
    | index i => exact h.elim
    | key k =>
      cases d with
      | obj desired =>
        cases o with
        | obj observed =>
          rw [walk_merge_obj]
          rw [Leaves] at h
          cases hd : Entries.get? k desired with
          | none => rfl
          | some d =>
            rw [hd] at h
            rw [walk]
            cases ho : Entries.get? k observed with
            | none => exact walk_eq_none_of_leaves h
            | some o => exact ih h o
        -- What is no object has no value at the path, and neither has the patch in its place.
        | _ => exact walk_eq_none_of_leaves h
      | _ => exact h.elim

/-- A value of the patch that is no object stands in the merged document. -/
theorem walk_merge_of_walk {steps : List Segment} {d v : Document} (hv : v.members? = none)
    (h : d.walk steps = some v) (o : Document) : (merge o d d).walk steps = some v := by
  -- Two objects are merged on the way only, since `v` is no object.
  induction steps generalizing o d with
  | nil =>
    rcases merge_eq_or o d d with ⟨observed, desired, rfl, rfl⟩ | heq
    · cases h
      simp [members?] at hv
    · rw [heq, h]
  | cons s rest ih =>
    rcases merge_eq_or o d d with ⟨observed, desired, rfl, rfl⟩ | heq
    · cases s with
      | index i => simp [walk] at h
      | key k =>
        rw [walk_merge_obj]
        rw [walk] at h
        cases hd : Entries.get? k desired with
        | none => simp [hd] at h
        | some d =>
          rw [hd] at h
          cases Entries.get? k observed with
          | none => exact h
          | some o => exact ih h o
    · rw [heq, h]

/-- A value of the merged document that is no object is one of the patch, or it was there
    before and the patch leaves it. -/
theorem walk_or_leaves_of_walk_merge {steps : List Segment} {o d v : Document}
    (hv : v.members? = none) (h : (merge o d d).walk steps = some v) :
    d.walk steps = some v ∨ d.Leaves steps ∧ o.walk steps = some v := by
  -- Wherever the merge replaces, the rest of the path leads through the patch alone.
  induction steps generalizing o d with
  | nil =>
    rcases merge_eq_or o d d with ⟨observed, desired, rfl, rfl⟩ | heq
    · rw [merge_obj] at h
      cases h
      simp [members?] at hv
    · exact .inl (heq ▸ h)
  | cons s rest ih =>
    rcases merge_eq_or o d d with ⟨observed, desired, rfl, rfl⟩ | heq
    · cases s with
      | index i =>
        rw [merge_obj] at h
        simp [walk] at h
      | key k =>
        rw [walk_merge_obj] at h
        rw [walk, Leaves]
        cases hd : Entries.get? k desired with
        | none =>
          rw [hd] at h
          exact .inr ⟨trivial, h⟩
        | some d =>
          rw [hd] at h
          rw [walk]
          cases ho : Entries.get? k observed with
          | none =>
            rw [ho] at h
            exact .inl h
          | some o =>
            rw [ho] at h
            exact ih h
    · exact .inl (heq ▸ h)

/-- Where the values of a patched document come from that are no objects. -/
theorem walk_merge_eq_some {steps : List Segment} {o d v : Document} (hv : v.members? = none) :
    (merge o d d).walk steps = some v ↔
      d.walk steps = some v ∨ d.Leaves steps ∧ o.walk steps = some v := by
  constructor
  · exact walk_or_leaves_of_walk_merge hv
  · rintro (h | ⟨hleaves, h⟩)
    · exact walk_merge_of_walk hv h o
    · rw [walk_merge_of_leaves hleaves, h]

end Reconciler.Document
