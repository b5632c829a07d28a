import Reconciler.Path.Access
import Reconciler.Proofs.Document.WellFormed
import Reconciler.Proofs.Entries

namespace Reconciler

/-!
# Writing at a path

A write goes through the steps that lead to its place.  Each of them finds the place of the next
one, or makes it, or cannot be taken.  What one step does is said here once, and what a whole
write does follows from it by induction on the steps.

* `StepsTo`, `Blocks`, `stepsTo_or_blocks` — a step that can be taken, and one that cannot;
* `write_cons_eq`, `write_cons_eq_ok` — one step of a write;
* `StepsTo.walk_put`, `StepsTo.walk_put_eq_walk`, `StepsTo.again` — what a step leaves behind;
* `walk_write` — the written value is read where it was written;
* `FieldPath.set_eq_ok`, `FieldPath.set_eq_error` — a write at a path.
-/

namespace Document

variable {v x d d' child : Document} {pos : Nat} {step : Segment} {steps rest : List Segment}
  {put : Document → Document} {fault : WriteFault} {outcome : Option WriteFault}

/-! ### One step -/

/-- The step leads from `d` to `child`, which is null where there is nothing yet.  With another
    value in this place the document is `put` of that value. -/
inductive StepsTo : Segment → Document → Document → (Document → Document) → Prop
  | key {k : String} {d : Document} {members : List (String × Document)}
      (h : d.openMembers? = some members) :
      StepsTo (.key k) d ((Entries.get? k members).getD null)
        fun child => obj (Entries.insert k child members)
  | index {i : Nat} {items : List Document} {item : Document} (h : items[i]? = some item) :
      StepsTo (.index i) (arr items) item fun child => arr (items.set i child)

/-- Step number `pos` cannot be taken from `d`: a key is not in an object, nor in a null that can
    become one, or a position is not in a list, or the list is too short for it. -/
inductive Blocks (pos : Nat) : Segment → Document → WriteFault → Prop
  | key {k : String} {d : Document} (hnull : d.kind ≠ .null) (hobject : d.kind ≠ .object) :
      Blocks pos (.key k) d (.mismatch pos .object d.kind)
  | index {i : Nat} {d : Document} (harray : d.kind ≠ .array) :
      Blocks pos (.index i) d (.mismatch pos .array d.kind)
  | tooShort {i : Nat} {items : List Document} (hlength : items.length ≤ i) :
      Blocks pos (.index i) (arr items) (.outOfBounds i items.length)

/-- An object has its own members, and a null can become an object without any. -/
theorem openMembers?_eq_some {members : List (String × Document)} :
    d.openMembers? = some members ↔ d = obj members ∨ d = null ∧ members = [] := by
  cases d <;> simp [openMembers?, eq_comm]

theorem openMembers?_eq_none : d.openMembers? = none ↔ d.kind ≠ .null ∧ d.kind ≠ .object := by
  cases d <;> simp [openMembers?, kind]

/-- Every step can be taken or is blocked. -/
theorem stepsTo_or_blocks (pos : Nat) (step : Segment) (d : Document) :
    (∃ child put, StepsTo step d child put) ∨ ∃ fault, Blocks pos step d fault := by
  cases step with
  | key k =>
    cases hmembers : d.openMembers? with
    | some members => exact .inl ⟨_, _, .key hmembers⟩
    | none =>
      obtain ⟨hnull, hobject⟩ := openMembers?_eq_none.mp hmembers
      exact .inr ⟨_, .key hnull hobject⟩
  | index i =>
    -- A position needs a list that is long enough.
    by_cases harray : d.kind = .array
    · cases d with
      | arr items =>
        cases hitem : items[i]? with
        | some item => exact .inl ⟨_, _, .index hitem⟩
        | none => exact .inr ⟨_, .tooShort (List.getElem?_eq_none_iff.mp hitem)⟩
      | _ => cases harray
    · exact .inr ⟨_, .index harray⟩

/-- Where a step can be taken, the write goes on in the child, and the changed child is put in its
    place whether the rest succeeds or not. -/
theorem write_of_stepsTo (h : StepsTo step d child put) (v : Document) (pos : Nat)
    (rest : List Segment) :
    write v pos (step :: rest) d =
      (put (write v (pos + 1) rest child).1, (write v (pos + 1) rest child).2) := by
  cases h with
  | key hmembers => rw [write, hmembers]
  | index hitem => rw [write, hitem]

/-- Where a step is blocked, the write ends there and the document stays. -/
theorem write_of_blocks (h : Blocks pos step d fault) (v : Document) (rest : List Segment) :
    write v pos (step :: rest) d = (d, some fault) := by
  cases h with
  | key hnull hobject => rw [write, openMembers?_eq_none.mpr ⟨hnull, hobject⟩]
  | index harray =>
    cases d with
    | arr items => exact absurd rfl harray
    | _ => rfl
  | tooShort hlength => rw [write, List.getElem?_eq_none_iff.mpr hlength]

/-- One step of a write is taken, and the rest of the write goes on from there, or it is blocked,
    and that is the end. -/
theorem write_cons_eq :
    write v pos (step :: rest) d = (d', outcome) ↔
      (∃ child put child', StepsTo step d child put ∧
          write v (pos + 1) rest child = (child', outcome) ∧ put child' = d') ∨
        ∃ fault, Blocks pos step d fault ∧ d = d' ∧ some fault = outcome := by
  constructor
  · intro h
    rcases stepsTo_or_blocks pos step d with ⟨child, put, hstep⟩ | ⟨fault, hblocks⟩
    · rw [write_of_stepsTo hstep] at h
      obtain ⟨hd, houtcome⟩ := Prod.mk.inj h
      exact .inl ⟨child, put, _, hstep, Prod.ext rfl houtcome, hd⟩
    · rw [write_of_blocks hblocks] at h
      obtain ⟨hd, houtcome⟩ := Prod.mk.inj h
      exact .inr ⟨fault, hblocks, hd, houtcome⟩
  · rintro (⟨child, put, child', hstep, hchild, rfl⟩ | ⟨fault, hblocks, rfl, rfl⟩)
    · rw [write_of_stepsTo hstep, hchild]
    · exact write_of_blocks hblocks v rest

/-- A write succeeds iff its first step can be taken and the rest succeeds from there. -/
theorem write_cons_eq_ok :
    write v pos (step :: rest) d = (d', none) ↔
      ∃ child put child', StepsTo step d child put ∧
        write v (pos + 1) rest child = (child', none) ∧ put child' = d' := by
  rw [write_cons_eq, or_iff_left]
  rintro ⟨fault, -, -, h⟩
  cases h

namespace StepsTo

/-! ### What a step leaves behind -/

/-- The new value is found by the step that led to its place. -/
theorem walk_put (h : StepsTo step d child put) (child' : Document) (rest : List Segment) :
    (put child').walk (step :: rest) = child'.walk rest := by
  cases h with
  | @key k _ members _ =>
    rw [walk, Entries.get?_insert_self, Option.bind_some]
  | index hitem =>
    have hlt := (List.getElem?_eq_some_iff.mp hitem).1
    rw [walk, List.getElem?_set_self hlt, Option.bind_some]

/-- By any other step everything is found as before. -/
theorem walk_put_of_ne (h : StepsTo step d child put) {other : Segment} (hne : other ≠ step)
    (child' : Document) (rest : List Segment) :
    (put child').walk (other :: rest) = d.walk (other :: rest) := by
  cases h with
  | @key k _ members hmembers =>
    cases other with
    | index i =>
      rcases openMembers?_eq_some.mp hmembers with rfl | ⟨rfl, rfl⟩ <;> rfl
    | key k' =>
      -- Another key of the same object, or of the null that becomes one.
      have hk : k' ≠ k := fun hk => hne (congrArg Segment.key hk)
      rw [walk, Entries.get?_insert, if_neg hk]
      rcases openMembers?_eq_some.mp hmembers with rfl | ⟨rfl, rfl⟩ <;> rfl
  | @index i items _ hitem =>
    cases other with
    | key k => rfl
    | index i' =>
      have hi : i ≠ i' := fun hi => hne (congrArg Segment.index hi.symm)
      rw [walk, walk, List.getElem?_set_ne hi]

/-- A step that goes on finds in the document what the rest of the way finds from its place. -/
theorem walk_cons (h : StepsTo step d child put) (hrest : rest ≠ []) :
    d.walk (step :: rest) = child.walk rest := by
  cases h with
  | @key k _ members hmembers =>
    -- From the null that stands for a missing member no step leads on.
    have hnull : null.walk rest = none := by
      cases rest with
      | nil => exact absurd rfl hrest
      | cons s _ => cases s <;> rfl
    rcases openMembers?_eq_some.mp hmembers with rfl | ⟨rfl, rfl⟩
    · rw [walk]
      cases Entries.get? k members with
      | none => exact hnull.symm
      | some child => rfl
    · exact hnull.symm
  | index hitem => rw [walk, hitem, Option.bind_some]

/-- What lies off the place of the step, or is found from there as before, is found as before in
    the whole document. -/
theorem walk_put_eq_walk (h : StepsTo step d child put) {other : Segment} {child' : Document}
    (hsame : other = step → rest ≠ [] ∧ child'.walk rest = child.walk rest) :
    (put child').walk (other :: rest) = d.walk (other :: rest) := by
  by_cases hother : other = step
  · obtain ⟨hrest, hwalk⟩ := hsame hother
    rw [hother, h.walk_put, h.walk_cons hrest, hwalk]
  · exact h.walk_put_of_ne hother child' rest

/-- The step leads to the same place again, and what is put there takes the place of what was. -/
theorem again (h : StepsTo step d child put) (child' : Document) :
    StepsTo step (put child') child' put := by
  cases h with
  | @key k _ members _ =>
    -- The child stands under its key now, and writing it again changes nothing.
    have hmembers : (obj (Entries.insert k child' members)).openMembers? =
        some (Entries.insert k child' members) := rfl
    have hstep := StepsTo.key (k := k) hmembers
    simpa only [Entries.get?_insert_self, Option.getD_some, Entries.insert_insert] using hstep
  | @index i items _ hitem =>
    have hlt := (List.getElem?_eq_some_iff.mp hitem).1
    have hstep := StepsTo.index (List.getElem?_set_self (a := child') hlt)
    simpa only [List.set_set] using hstep

/-- An object stays one. -/
theorem exists_put_eq_obj {members : List (String × Document)}
    (h : StepsTo step (obj members) child put) (child' : Document) :
    ∃ members', put child' = obj members' := by
  cases h with
  | key => exact ⟨_, rfl⟩

/-- A step from a well-formed document leads to a well-formed one. -/
theorem wellFormed_child (h : StepsTo step d child put) (hd : d.WellFormed) :
    child.WellFormed := by
  cases h with
  | @key k _ members hmembers =>
    rcases openMembers?_eq_some.mp hmembers with rfl | ⟨rfl, rfl⟩
    · cases hget : Entries.get? k members with
      | none => trivial
      | some child => exact hd.2.get? hget
    · trivial
  | index hitem => exact allWellFormed_iff.mp hd _ (List.mem_of_getElem? hitem)

/-- A well-formed child in its place makes a well-formed document. -/
theorem wellFormed_put (h : StepsTo step d child put) (hd : d.WellFormed) {child' : Document}
    (hchild' : child'.WellFormed) : (put child').WellFormed := by
  cases h with
  | @key k _ members hmembers =>
    have hobj : (obj members).WellFormed := by
      rcases openMembers?_eq_some.mp hmembers with rfl | ⟨rfl, rfl⟩
      · exact hd
      · exact ⟨Entries.sorted_nil, trivial⟩
    exact ⟨hobj.1.insert k child', hobj.2.insert hchild' k⟩
  | @index i items _ _ =>
    refine allWellFormed_iff.mpr fun item hitem => ?_
    rcases List.mem_or_eq_of_mem_set hitem with hmem | rfl
    · exact allWellFormed_iff.mp hd item hmem
    · exact hchild'

/-- A step that can be taken is not blocked. -/
theorem not_blocks (h : StepsTo step d child put) : ¬ Blocks pos step d fault := by
  intro hblocks
  cases h with
  | key hmembers =>
    cases hblocks with
    | key hnull hobject =>
      rw [openMembers?_eq_none.mpr ⟨hnull, hobject⟩] at hmembers
      cases hmembers
  | index hitem =>
    cases hblocks with
    | index harray => exact harray rfl
    | tooShort hlength =>
      rw [List.getElem?_eq_none_iff.mpr hlength] at hitem
      cases hitem

end StepsTo

/-- A step that finds something can be taken, and putting there what is there changes nothing. -/
theorem stepsTo_of_walk (hd : d.WellFormed) (h : d.walk (step :: rest) = some x) :
    ∃ child put, StepsTo step d child put ∧ child.WellFormed ∧ child.walk rest = some x ∧
      put child = d := by
  cases step with
  -- What is found is put back to where it was.
  | key k =>
    cases d with
    | obj members =>
      obtain ⟨child, hget, hchild⟩ := Option.bind_eq_some_iff.mp h
      have hstep := StepsTo.key (k := k) (show (obj members).openMembers? = some members from rfl)
      rw [hget, Option.getD_some] at hstep
      exact ⟨child, _, hstep, hd.2.get? hget, hchild,
        congrArg obj (hd.1.insert_of_get? hget)⟩
    | _ => cases h
  | index i =>
    cases d with
    | arr items =>
      obtain ⟨item, hitem, hrest⟩ := Option.bind_eq_some_iff.mp h
      obtain ⟨hlt, hget⟩ := List.getElem?_eq_some_iff.mp hitem
      refine ⟨item, _, .index hitem, allWellFormed_iff.mp hd item (List.mem_of_getElem? hitem),
        hrest, ?_⟩
      rw [← hget, List.set_getElem_self]
    | _ => cases h

/-! ### The whole way -/

/-- The value that a successful write has put in its place is the one that is found there. -/
theorem walk_write (h : write v pos steps d = (d', none)) : d'.walk steps = some v := by
  induction steps generalizing pos d d' with
  | nil =>
    obtain rfl : v = d' := congrArg Prod.fst h
    rfl
  | cons step rest ih =>
    obtain ⟨child, put, child', hstep, hchild, rfl⟩ := write_cons_eq_ok.mp h
    rw [hstep.walk_put]
    exact ih hchild

end Document

namespace FieldPath

/-! ### Writing at a field path -/

variable {p : FieldPath} {v d d' : Document}

/-- A write at a path is the write along its steps. -/
theorem set_eq_ok : p.set v d = (d', none) ↔ Document.write v 0 p.segments d = (d', none) := by
  rw [set]
  cases h : Document.write v 0 p.segments d with
  | mk d₁ outcome => cases outcome <;> simp

/-- The failure of a write names the path as it was written. -/
theorem set_eq_error {e : PathError} :
    p.set v d = (d', some e) ↔
      ∃ fault, Document.write v 0 p.segments d = (d', some fault) ∧ e = .write p.raw fault := by
  rw [set]
  cases h : Document.write v 0 p.segments d with
  | mk d₁ outcome => cases outcome <;> simp [eq_comm]

end FieldPath

end Reconciler
