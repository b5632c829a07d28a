import Mathlib.Data.List.Infix
import Reconciler.Proofs.Path.Writing

namespace Reconciler

/-!
# A write that fails

A write goes on its way before it knows whether there is a place at the end.  When a step cannot
be taken, the objects that were made before it stay, but nothing else has happened.

* `Document.valueAt` — what the steps lead to, where null stands for what is missing;
* `Document.FirstBlocked` — the first step that cannot be taken, and why;
* `Document.Opens`, `Document.OpenedAlong` — what can become of a value, and of a document;
* `Document.write_eq_error`, `Document.exists_write_eq_error` — a write fails at the first blocked
  step, after it has opened the way to it;
* `Document.write_again` — the same write fails there again, and has nothing left to open;
* `FieldPath.BlockedBy`, `FieldPath.LeavesBehind` — the same for a path.
-/

namespace Document

variable {v d d' child child' : Document} {pos i : Nat} {step : Segment}
  {steps way rest q : List Segment} {put : Document → Document} {fault : WriteFault}

/-! ### The first blocked step -/

/-- The value that the steps lead to.  What is missing counts as null. -/
def valueAt (steps : List Segment) (d : Document) : Document :=
  (d.walk steps).getD null

theorem valueAt_singleton (h : StepsTo step d child put) : valueAt [step] d = child := by
  cases h with
  | @key k _ members hmembers =>
    rcases openMembers?_eq_some.mp hmembers with rfl | ⟨rfl, rfl⟩
    · rw [valueAt, walk]
      cases Entries.get? k members <;> rfl
    · rfl
  | index hitem =>
    rw [valueAt, walk, hitem]
    rfl

/-- Several steps lead on from the value of the first one. -/
theorem valueAt_cons (h : StepsTo step d child put) (q : List Segment) :
    valueAt (step :: q) d = valueAt q child := by
  cases q with
  | nil => exact valueAt_singleton h
  | cons s q => rw [valueAt, valueAt, h.walk_cons (List.cons_ne_nil s q)]

/-- Of the steps from `d`, the first of which has the number `pos`, the one `i` steps further on
    is the first that cannot be taken, for the fault. -/
structure FirstBlocked (pos : Nat) (steps : List Segment) (d : Document) (i : Nat)
    (fault : WriteFault) : Prop where
  blocks : ∃ step, steps[i]? = some step ∧ Blocks (pos + i) step (valueAt (steps.take i) d) fault
  first : ∀ j < i, ∀ step, steps[j]? = some step →
    ∀ fault, ¬ Blocks (pos + j) step (valueAt (steps.take j) d) fault

/-- The first step is the first blocked one iff it is blocked. -/
theorem firstBlocked_zero :
    FirstBlocked pos (step :: rest) d 0 fault ↔ Blocks pos step d fault := by
  constructor
  · rintro ⟨⟨_, hstep, hblocks⟩, -⟩
    obtain rfl := Option.some.inj hstep
    exact hblocks
  · intro hblocks
    exact ⟨⟨step, rfl, hblocks⟩, fun j hj => absurd hj (Nat.not_lt_zero j)⟩

/-- Behind a step that is taken, the first blocked step is that of the rest of the way. -/
theorem firstBlocked_succ (h : StepsTo step d child put) :
    FirstBlocked pos (step :: rest) d (i + 1) fault ↔
      FirstBlocked (pos + 1) rest child i fault := by
  -- A step of the rest is one step further on in the whole.
  have hblocks : ∀ j s f, Blocks (pos + (j + 1)) s (valueAt ((step :: rest).take (j + 1)) d) f ↔
      Blocks (pos + 1 + j) s (valueAt (rest.take j) child) f := by
    intro j s f
    rw [List.take_succ_cons, valueAt_cons h, Nat.add_right_comm pos 1 j, Nat.add_assoc]
  constructor
  · rintro ⟨⟨s, hs, hblocked⟩, hfirst⟩
    refine ⟨⟨s, hs, (hblocks i s fault).mp hblocked⟩, fun j hj s hs f hf => ?_⟩
    exact hfirst (j + 1) (Nat.succ_lt_succ hj) s hs f ((hblocks j s f).mpr hf)
  · rintro ⟨⟨s, hs, hblocked⟩, hfirst⟩
    refine ⟨⟨s, hs, (hblocks i s fault).mpr hblocked⟩, fun j hj s hs f hf => ?_⟩
    cases j with
    | zero =>
      obtain rfl := Option.some.inj hs
      exact h.not_blocks hf
    | succ j =>
      exact hfirst j (Nat.lt_of_succ_lt_succ hj) s hs f ((hblocks j s f).mp hf)

/-! ### What becomes of a document -/

/-- What can become of a value on an open way: a null can become an object, the members of an
    object and the items of a list can become others, though not the number of items, and
    everything can stay. -/
inductive Opens : Document → Document → Prop
  | opened (members : List (String × Document)) : Opens null (obj members)
  | members (members members' : List (String × Document)) : Opens (obj members) (obj members')
  | items {items items' : List Document} (h : items'.length = items.length) :
      Opens (arr items) (arr items')
  | stays (d : Document) : Opens d d

/-- The documents differ only along the way: steps that do not lead on it or end beside it lead
    to the same, and what was missing on the way is there now. -/
structure OpenedAlong (way : List Segment) (d d' : Document) : Prop where
  beside : ∀ q, ¬ q <+: way → d'.walk q = d.walk q
  along : ∀ q, q <+: way → ∃ x, d'.walk q = some x ∧ Opens (valueAt q d) x

/-- With another child in its place the document is still of its kind, or it is an object where it
    was null. -/
theorem StepsTo.opens (h : StepsTo step d child put) (child' : Document) :
    Opens d (put child') := by
  cases h with
  | key hmembers =>
    rcases openMembers?_eq_some.mp hmembers with rfl | ⟨rfl, rfl⟩
    · exact .members _ _
    · exact .opened _
  | index hitem => exact .items List.length_set

/-- No steps open nothing. -/
theorem openedAlong_nil (d : Document) : OpenedAlong [] d d := by
  refine ⟨fun q _ => rfl, fun q hq => ?_⟩
  obtain rfl := List.prefix_nil.mp hq
  exact ⟨d, rfl, .stays d⟩

/-- A way is opened step by step. -/
theorem OpenedAlong.cons (h : StepsTo step d child put) (hchild : OpenedAlong way child child') :
    OpenedAlong (step :: way) d (put child') := by
  constructor
  · -- Beside the way: another first step, or the same one and then beside the rest.
    intro q hq
    cases q with
    | nil => exact absurd List.nil_prefix hq
    | cons s q =>
      refine h.walk_put_eq_walk fun hs => ?_
      rw [hs, List.cons_prefix_cons, and_iff_right rfl] at hq
      exact ⟨fun hnil => hq (hnil ▸ List.nil_prefix), hchild.beside q hq⟩
  · intro q hq
    cases q with
    -- On the way: the document itself, or something behind the first step.
    | nil => exact ⟨put child', rfl, h.opens child'⟩
    | cons s q =>
      obtain ⟨rfl, hrest⟩ := List.cons_prefix_cons.mp hq
      rw [h.walk_put, valueAt_cons h]
      exact hchild.along q hrest

/-- Whatever was there is still there, on the way and beside it. -/
theorem OpenedAlong.kept (h : OpenedAlong way d d') {x : Document} (hx : d.walk q = some x) :
    ∃ x', d'.walk q = some x' ∧ Opens x x' := by
  by_cases hq : q <+: way
  · obtain ⟨x', hx', hopens⟩ := h.along q hq
    rw [valueAt, hx, Option.getD_some] at hopens
    exact ⟨x', hx', hopens⟩
  · exact ⟨x, (h.beside q hq).trans hx, .stays x⟩

/-! ### The failing write -/

/-- A write fails at the first blocked step, and has opened the way to it. -/
theorem write_eq_error (h : write v pos steps d = (d', some fault)) :
    ∃ i, FirstBlocked pos steps d i fault ∧ OpenedAlong (steps.take i) d d' := by
  induction steps generalizing pos d d' with
  | nil => cases h
  | cons step rest ih =>
    rcases write_cons_eq.mp h with ⟨child, put, child', hstep, hchild, rfl⟩ | ⟨f, hblocks, rfl, hf⟩
    · obtain ⟨i, hfirst, hopened⟩ := ih hchild
      exact ⟨i + 1, (firstBlocked_succ hstep).mpr hfirst, hopened.cons hstep⟩
    · obtain rfl := Option.some.inj hf
      exact ⟨0, firstBlocked_zero.mpr hblocks, openedAlong_nil d⟩

/-- A write with a blocked step fails there. -/
theorem fault_of_firstBlocked (h : FirstBlocked pos steps d i fault) (v : Document) :
    (write v pos steps d).2 = some fault := by
  induction steps generalizing pos d i with
  | nil =>
    obtain ⟨⟨_, hstep, -⟩, -⟩ := h
    cases hstep
  | cons step rest ih =>
    -- The first step is taken iff the blocked one comes later.
    rcases stepsTo_or_blocks pos step d with ⟨child, put, hstep⟩ | ⟨f, hblocks⟩
    · cases i with
      | zero => exact absurd (firstBlocked_zero.mp h) hstep.not_blocks
      | succ i =>
        rw [write_of_stepsTo hstep]
        exact ih ((firstBlocked_succ hstep).mp h)
    · cases i with
      | zero => rw [write_of_blocks (firstBlocked_zero.mp h)]
      | succ i =>
        exact absurd hblocks (h.first 0 (Nat.succ_pos i) step rfl f)

/-- A write fails with a fault iff that is the fault of the first blocked step. -/
theorem exists_write_eq_error :
    (∃ d', write v pos steps d = (d', some fault)) ↔ ∃ i, FirstBlocked pos steps d i fault := by
  constructor
  · rintro ⟨d', h⟩
    obtain ⟨i, hfirst, -⟩ := write_eq_error h
    exact ⟨i, hfirst⟩
  · rintro ⟨i, hfirst⟩
    exact ⟨_, Prod.ext rfl (fault_of_firstBlocked hfirst v)⟩

/-- The same write fails in the same way again, and changes nothing any more. -/
theorem write_again (h : write v pos steps d = (d', some fault)) :
    write v pos steps d' = (d', some fault) := by
  induction steps generalizing pos d d' with
  | nil => cases h
  | cons step rest ih =>
    rcases write_cons_eq.mp h with ⟨child, put, child', hstep, hchild, rfl⟩ | ⟨f, hblocks, rfl, hf⟩
    · rw [write_of_stepsTo (hstep.again child'), ih hchild]
    · exact h

/-- A failed write leaves a well-formed document well-formed. -/
theorem wellFormed_of_write_eq_error (hd : d.WellFormed)
    (h : write v pos steps d = (d', some fault)) : d'.WellFormed := by
  induction steps generalizing pos d d' with
  | nil => cases h
  | cons step rest ih =>
    rcases write_cons_eq.mp h with ⟨child, put, child', hstep, hchild, rfl⟩ | ⟨f, hblocks, rfl, hf⟩
    · exact hstep.wellFormed_put hd (ih (hstep.wellFormed_child hd) hchild)
    · exact hd

end Document

namespace FieldPath

open Document

variable {p : FieldPath} {v d d' : Document} {e : PathError}

/-! ### At a path -/

/-- The failure names the path and the first of its steps that cannot be taken from `d`. -/
def BlockedBy (p : FieldPath) (d : Document) (e : PathError) : Prop :=
  ∃ i fault, FirstBlocked 0 p.segments d i fault ∧ e = .write p.raw fault

/-- What a failed write at the path leaves of `d`: objects along the steps before the one that
    the failure names, and everything that was there. -/
structure LeavesBehind (p : FieldPath) (d d' : Document) (e : PathError) : Prop where
  opened : ∃ i fault, FirstBlocked 0 p.segments d i fault ∧ e = .write p.raw fault ∧
    OpenedAlong (p.segments.take i) d d'
  kept : ∀ q x, d.walk q = some x → ∃ x', d'.walk q = some x' ∧ Opens x x'
  wellFormed : d.WellFormed → d'.WellFormed

/-- A write at a path fails iff the path is blocked, and with just that error. -/
theorem exists_set_eq_error : (∃ d', p.set v d = (d', some e)) ↔ p.BlockedBy d e := by
  simp only [set_eq_error]
  constructor
  · rintro ⟨d', fault, hwrite, rfl⟩
    obtain ⟨i, hfirst⟩ := exists_write_eq_error.mp ⟨d', hwrite⟩
    exact ⟨i, fault, hfirst, rfl⟩
  · rintro ⟨i, fault, hfirst, rfl⟩
    obtain ⟨d', hwrite⟩ := exists_write_eq_error.mpr ⟨i, hfirst⟩
    exact ⟨d', fault, hwrite, rfl⟩

/-- What a failed write has left behind: containers that it opened on its way, and nothing else. -/
theorem leavesBehind_of_set (h : p.set v d = (d', some e)) : p.LeavesBehind d d' e := by
  obtain ⟨fault, hwrite, rfl⟩ := set_eq_error.mp h
  obtain ⟨i, hfirst, hopened⟩ := write_eq_error hwrite
  exact ⟨⟨i, fault, hfirst, rfl, hopened⟩, fun q x hx => hopened.kept hx,
    fun hd => wellFormed_of_write_eq_error hd hwrite⟩

/-- A failed write fails in the same way when it is tried again, and changes nothing more. -/
theorem set_again (h : p.set v d = (d', some e)) : p.set v d' = (d', some e) := by
  obtain ⟨fault, hwrite, rfl⟩ := set_eq_error.mp h
  exact set_eq_error.mpr ⟨fault, write_again hwrite, rfl⟩

end FieldPath

end Reconciler
