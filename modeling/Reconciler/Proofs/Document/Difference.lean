import Mathlib.Algebra.BigOperators.Group.Finset.Piecewise
import Mathlib.Algebra.Order.BigOperators.Group.Finset
import Reconciler.Document.Diff
import Reconciler.Proofs.Document.Equality
import Reconciler.Proofs.Entries

namespace Reconciler

/-!
# Differences member by member

The summary of the difference of two objects is a sum, over the keys of both, of what each member
counts for itself.

* `DiffSummary` — summaries are added, and nothing is the zero;
* `DiffSummary.Within` — a difference that takes back more than it adds;
* `Document.memberDiff` — what one member counts for;
* `Document.compareTo_obj` — an object counts for its members;
* `Document.within_memberDiff_obj` — two objects against the same base, member by member;
* `Document.diff_obj` — the members of the server aside.
-/

attribute [ext] DiffSummary

namespace DiffSummary

/-! ### Sums -/

instance : Zero DiffSummary := ⟨zero⟩

instance : AddCommMonoid DiffSummary where
  add_assoc s t u := by ext <;> exact Nat.add_assoc _ _ _
  zero_add s := by ext <;> exact Nat.zero_add _
  add_zero s := rfl
  add_comm s t := by ext <;> exact Nat.add_comm _ _
  nsmul := nsmulRec

/-- Each count of a sum is the sum of these counts. -/
def addsHom : DiffSummary →+ ℕ := ⟨⟨adds, rfl⟩, fun _ _ => rfl⟩

def updatesHom : DiffSummary →+ ℕ := ⟨⟨updates, rfl⟩, fun _ _ => rfl⟩

def removesHom : DiffSummary →+ ℕ := ⟨⟨removes, rfl⟩, fun _ _ => rfl⟩

section Sum

variable {K : Finset String} {f g : String → DiffSummary}

theorem adds_sum : (∑ k ∈ K, f k).adds = ∑ k ∈ K, (f k).adds := map_sum addsHom f K

theorem updates_sum : (∑ k ∈ K, f k).updates = ∑ k ∈ K, (f k).updates := map_sum updatesHom f K

theorem removes_sum : (∑ k ∈ K, f k).removes = ∑ k ∈ K, (f k).removes := map_sum removesHom f K

end Sum

/-! ### Less of a difference -/

/-- The number of places that differ in some way. -/
def places (s : DiffSummary) : ℕ := s.adds + s.updates + s.removes

/-- A summary without places is zero. -/
theorem eq_zero_iff {s : DiffSummary} : s = 0 ↔ s.places = 0 := by
  constructor
  · rintro rfl
    rfl
  · intro h
    have hplaces : s.adds + s.updates + s.removes = 0 := h
    ext
    · show s.adds = 0
      omega
    · show s.updates = 0
      omega
    · show s.removes = 0
      omega

/-- No more places differ, and of these no more are there only in the target, no more are there
    on both sides, and no fewer only in the base. -/
structure Within (s t : DiffSummary) : Prop where
  adds : s.adds ≤ t.adds
  updates : s.updates ≤ t.updates
  removes : t.removes ≤ s.removes
  places : s.places ≤ t.places

/-- A summary is within itself. -/
theorem within_refl (s : DiffSummary) : s.Within s :=
  ⟨le_refl _, le_refl _, le_refl _, le_refl _⟩

/-- Where nothing differs there is no less. -/
theorem Within.eq_zero {s : DiffSummary} (h : s.Within 0) : s = 0 :=
  eq_zero_iff.mpr (Nat.le_zero.mp h.places)

section Sum

variable {K : Finset String} {f g : String → DiffSummary}

/-- The places of a sum are those of its summands. -/
theorem places_sum : (∑ k ∈ K, f k).places = ∑ k ∈ K, (f k).places := by
  simp only [places, adds_sum, updates_sum, removes_sum, Finset.sum_add_distrib]

/-- Summand by summand, one sum is within another. -/
theorem Within.sum (h : ∀ k ∈ K, (f k).Within (g k)) : (∑ k ∈ K, f k).Within (∑ k ∈ K, g k) := by
  constructor
  · rw [adds_sum, adds_sum]
    exact Finset.sum_le_sum fun k hk => (h k hk).adds
  · rw [updates_sum, updates_sum]
    exact Finset.sum_le_sum fun k hk => (h k hk).updates
  · rw [removes_sum, removes_sum]
    exact Finset.sum_le_sum fun k hk => (h k hk).removes
  · rw [places_sum, places_sum]
    exact Finset.sum_le_sum fun k hk => (h k hk).places

/-- Nothing of a sum can make up for less of a difference somewhere. -/
theorem Within.sum_eq_iff (h : ∀ k ∈ K, (f k).Within (g k)) :
    ∑ k ∈ K, f k = ∑ k ∈ K, g k ↔ ∀ k ∈ K, f k = g k := by
  constructor
  · intro heq
    -- Sums of numbers that are bounded one by one are equal only if the numbers are.
    have hadds := congrArg DiffSummary.adds heq
    have hupdates := congrArg DiffSummary.updates heq
    have hremoves := congrArg DiffSummary.removes heq
    rw [adds_sum, adds_sum, Finset.sum_eq_sum_iff_of_le fun k hk => (h k hk).adds] at hadds
    rw [updates_sum, updates_sum,
      Finset.sum_eq_sum_iff_of_le fun k hk => (h k hk).updates] at hupdates
    rw [removes_sum, removes_sum, eq_comm,
      Finset.sum_eq_sum_iff_of_le fun k hk => (h k hk).removes] at hremoves
    intro k hk
    exact DiffSummary.ext (hadds k hk) (hupdates k hk) (hremoves k hk).symm
  · exact Finset.sum_congr rfl

end Sum

end DiffSummary

/-! ### Entries -/

section Entries

variable {α : Type} {K : Finset String}

/-- The keys of entries are among finitely many. -/
theorem exists_keys (l : List (String × α)) : ∃ K : Finset String, ∀ e ∈ l, e.1 ∈ K :=
  ⟨(l.map (·.1)).toFinset, fun _ he => List.mem_toFinset.mpr (List.mem_map_of_mem he)⟩

/-- Beside these keys nothing is found. -/
theorem get?_eq_none_of_keys {l : List (String × α)} (hK : ∀ e ∈ l, e.1 ∈ K) {k : String}
    (hk : k ∉ K) : Entries.get? k l = none := by
  rw [Entries.get?_eq_none_iff]
  intro hmem
  obtain ⟨e, he, rfl⟩ := List.mem_map.mp hmem
  exact hk (hK e he)

/-- A sum over sorted entries is one over keys. -/
theorem Entries.Sorted.sum_eq {l : List (String × α)} (hl : Entries.Sorted l)
    (hK : ∀ e ∈ l, e.1 ∈ K) (f : String → α → DiffSummary) :
    (l.map fun e => f e.1 e.2).sum = ∑ k ∈ K, ((Entries.get? k l).map (f k)).getD 0 := by
  induction l with
  | nil => simp
  | cons e l ih =>
    obtain ⟨k, v⟩ := e
    rw [List.forall_mem_cons] at hK
    have htail : Entries.get? k l = none := hl.get?_tail
    -- The first entry counts under its key, and the others under other keys.
    have hsplit : ∀ k' ∈ K, ((Entries.get? k' ((k, v) :: l)).map (f k')).getD 0 =
        (if k' = k then f k v else 0) + ((Entries.get? k' l).map (f k')).getD 0 := by
      intro k' _
      rw [Entries.get?_cons]
      by_cases hk : k' = k
      · subst hk
        simp [htail]
      · simp [hk]
    rw [List.map_cons, List.sum_cons, ih (List.pairwise_cons.mp hl).2 hK.2,
      Finset.sum_congr rfl hsplit, Finset.sum_add_distrib, Finset.sum_ite_eq', if_pos hK.1]

end Entries

namespace Document

/-! ### One member -/

/-- What a member counts for, which either side may be without. -/
def memberDiff (base target : Option Document) : DiffSummary :=
  match target, base with
  | some d, some b => if same d b then 0 else compareTo b d
  | some _, none => ⟨1, 0, 0⟩
  | none, some _ => ⟨0, 0, 1⟩
  | none, none => 0

/-- A member has no difference from itself. -/
@[simp] theorem memberDiff_self (o : Option Document) : memberDiff o o = 0 := by
  cases o with
  | none => rfl
  | some d => rw [memberDiff, if_pos (same_self d)]

/-- Members that are the same count for nothing. -/
theorem memberDiff_of_same {base target : Option Document}
    (h : Option.Rel (fun d b => same d b = true) target base) : memberDiff base target = 0 := by
  cases h with
  | none => rfl
  | some h => rw [memberDiff, if_pos h]

/-- A text against another one is a change. -/
theorem memberDiff_str (s t : String) :
    memberDiff (some (.str s)) (some (.str t)) = if t = s then 0 else ⟨0, 1, 0⟩ := by
  by_cases h : t = s
  · simp [memberDiff, same, h]
  · simp [memberDiff, same, compareTo, h]

/-- Null in the place of a value is a change. -/
theorem memberDiff_null {b : Document} (h : b.isNull = false) :
    memberDiff (some b) (some .null) = ⟨0, 1, 0⟩ := by
  cases b <;> simp_all [memberDiff, same, compareTo, isNull]

/-- Lists are compared position by position. -/
theorem memberDiff_arr (bs xs : List Document) :
    memberDiff (some (.arr bs)) (some (.arr xs)) =
      ⟨xs.length - bs.length, (xs.zip bs).countP fun e => !same e.1 e.2,
        bs.length - xs.length⟩ := by
  rw [memberDiff]
  split
  · next h =>
    have hitems : List.Forall₂ (fun x b => same x b = true) xs bs := sameItems_iff.mp h
    have hlength : xs.length = bs.length := hitems.length_eq
    have hcount : ((xs.zip bs).countP fun e => !same e.1 e.2) = 0 := by
      rw [List.countP_eq_zero]
      intro e he
      have hsame : same e.1 e.2 = true := (List.forall₂_iff_zip.mp hitems).2 he
      simp [hsame]
    rw [hlength, hcount, Nat.sub_self]
    rfl
  · rfl

/-! ### Objects -/

variable {bs xs : List (String × Document)} {K : Finset String}

/-- The members of the target are compared one by one. -/
theorem compareMembers_eq (bs xs : List (String × Document)) :
    compareMembers bs xs =
      (xs.map fun e => memberDiff (Entries.get? e.1 bs) (some e.2)).sum := by
  induction xs with
  | nil => rfl
  | cons e xs ih =>
    obtain ⟨k, x⟩ := e
    rw [compareMembers, List.map_cons, List.sum_cons, ih]
    cases Entries.get? k bs <;> rfl

/-- The members of the base that the target has not. -/
theorem removed_eq (bs xs : List (String × Document)) :
    (⟨0, 0, (bs.filter fun e => (Entries.get? e.1 xs).isNone).length⟩ : DiffSummary) =
      (bs.map fun e => if (Entries.get? e.1 xs).isNone then ⟨0, 0, 1⟩ else 0).sum := by
  induction bs with
  | nil => rfl
  | cons e bs ih =>
    rw [List.map_cons, List.sum_cons, ← ih, List.filter_cons]
    split
    · ext
      · rfl
      · rfl
      · exact Nat.add_comm _ _
    · rw [zero_add]

/-- Objects are compared member by member. -/
theorem compareTo_obj (hbs : Entries.Sorted bs) (hxs : Entries.Sorted xs)
    (hKbs : ∀ e ∈ bs, e.1 ∈ K) (hKxs : ∀ e ∈ xs, e.1 ∈ K) :
    compareTo (obj bs) (obj xs) =
      ∑ k ∈ K, memberDiff (Entries.get? k bs) (Entries.get? k xs) := by
  rw [compareTo, compareMembers_eq, removed_eq,
    hxs.sum_eq hKxs fun k x => memberDiff (Entries.get? k bs) (some x),
    hbs.sum_eq hKbs fun k _ => if (Entries.get? k xs).isNone then ⟨0, 0, 1⟩ else 0,
    ← Finset.sum_add_distrib]
  refine Finset.sum_congr rfl fun k _ => ?_
  cases Entries.get? k bs <;> cases Entries.get? k xs <;> simp [memberDiff]

/-- The comparison of two objects finds for itself when nothing in them differs. -/
theorem memberDiff_obj (hbs : Entries.Sorted bs) (hxs : Entries.Sorted xs) :
    memberDiff (some (obj bs)) (some (obj xs)) = compareTo (obj bs) (obj xs) := by
  rw [memberDiff]
  split
  · next h =>
    obtain ⟨K, hK⟩ := exists_keys (bs ++ xs)
    obtain ⟨hKbs, hKxs⟩ := List.forall_mem_append.mp hK
    rw [compareTo_obj hbs hxs hKbs hKxs]
    exact (Finset.sum_eq_zero fun k _ => memberDiff_of_same (same_get?_of_sameMembers h k)).symm
  · rfl

section Within

variable {ys : List (String × Document)}

/-- Two targets are compared with one base member by member.  When no member of the one differs
    more than that of the other, neither does the object, and it differs less as soon as a member
    does. -/
theorem within_memberDiff_obj (hbs : Entries.Sorted bs) (hxs : Entries.Sorted xs)
    (hys : Entries.Sorted ys)
    (h : ∀ k, (memberDiff (Entries.get? k bs) (Entries.get? k ys)).Within
      (memberDiff (Entries.get? k bs) (Entries.get? k xs))) :
    (memberDiff (some (obj bs)) (some (obj ys))).Within
        (memberDiff (some (obj bs)) (some (obj xs))) ∧
      (memberDiff (some (obj bs)) (some (obj xs)) = memberDiff (some (obj bs)) (some (obj ys)) ↔
        ∀ k, memberDiff (Entries.get? k bs) (Entries.get? k xs) =
          memberDiff (Entries.get? k bs) (Entries.get? k ys)) := by
  obtain ⟨K, hK⟩ := exists_keys (bs ++ (xs ++ ys))
  simp only [List.forall_mem_append] at hK
  obtain ⟨hKbs, hKxs, hKys⟩ := hK
  rw [memberDiff_obj hbs hxs, memberDiff_obj hbs hys, compareTo_obj hbs hxs hKbs hKxs,
    compareTo_obj hbs hys hKbs hKys]
  refine ⟨.sum fun k _ => h k, ?_⟩
  rw [eq_comm, DiffSummary.Within.sum_eq_iff fun k _ => h k]
  constructor
  · intro heq k
    by_cases hk : k ∈ K
    · exact (heq k hk).symm
    · -- Neither of the targets has a member under any other key.
      rw [get?_eq_none_of_keys hKxs hk, get?_eq_none_of_keys hKys hk]
  · exact fun heq k _ => (heq k).symm

/-- Two targets that agree off one name are compared as their members of that name are. -/
theorem within_memberDiff_obj_of_eq_off (hbs : Entries.Sorted bs) (hxs : Entries.Sorted xs)
    (hys : Entries.Sorted ys) {name : String}
    (hagree : ∀ k, k ≠ name → Entries.get? k ys = Entries.get? k xs)
    (h : (memberDiff (Entries.get? name bs) (Entries.get? name ys)).Within
      (memberDiff (Entries.get? name bs) (Entries.get? name xs))) :
    (memberDiff (some (obj bs)) (some (obj ys))).Within
        (memberDiff (some (obj bs)) (some (obj xs))) ∧
      (memberDiff (some (obj bs)) (some (obj xs)) = memberDiff (some (obj bs)) (some (obj ys)) ↔
        memberDiff (Entries.get? name bs) (Entries.get? name xs) =
          memberDiff (Entries.get? name bs) (Entries.get? name ys)) := by
  -- Every other key counts the same on both sides.
  have hmember : ∀ k, (memberDiff (Entries.get? k bs) (Entries.get? k ys)).Within
      (memberDiff (Entries.get? k bs) (Entries.get? k xs)) := by
    intro k
    by_cases hk : k = name
    · rw [hk]
      exact h
    · rw [hagree k hk]
      exact DiffSummary.within_refl _
  obtain ⟨hwithin, heq⟩ := within_memberDiff_obj hbs hxs hys hmember
  refine ⟨hwithin, heq.trans ⟨fun hall => hall name, fun hname k => ?_⟩⟩
  by_cases hk : k = name
  · rw [hk]
    exact hname
  · rw [hagree k hk]

end Within

/-! ### The members of the server aside -/

/-- What is compared of a member of an object at the top. -/
def stripMember (k : String) (d : Document) : Document :=
  match k, d with
  | "metadata", obj metadata => obj (metadata.filter fun e => !serverMetadata.contains e.1)
  | _, d => d

/-- The members that are compared of an object at the top. -/
def strippedMembers (members : List (String × Document)) : List (String × Document) :=
  (Entries.erase "status" members).map fun e => (e.1, stripMember e.1 e.2)

/-- Of an object the members of a server are left out. -/
theorem stripServerFields_obj (members : List (String × Document)) :
    stripServerFields (obj members) = obj (strippedMembers members) := by
  rw [stripServerFields, strippedMembers]
  refine congrArg obj (List.map_congr_left ?_)
  rintro ⟨k, d⟩ -
  by_cases hk : k = "metadata"
  · subst hk
    cases d <;> rfl
  · simp [stripMember, hk]

/-- The others stay sorted. -/
theorem sorted_strippedMembers {members : List (String × Document)}
    (h : Entries.Sorted members) : Entries.Sorted (strippedMembers members) :=
  (h.erase "status").map_values stripMember

/-- The status is gone, and the metadata has lost what a server writes. -/
theorem get?_strippedMembers (k : String) (members : List (String × Document)) :
    Entries.get? k (strippedMembers members) =
      if k = "status" then none else (Entries.get? k members).map (stripMember k) := by
  rw [strippedMembers, Entries.get?_map_entries k stripMember, Entries.get?_erase]
  split <;> rfl

/-- The difference of two objects is that of what is compared of them. -/
theorem diff_obj (hbs : Entries.Sorted bs) (hxs : Entries.Sorted xs) :
    diff (obj xs) (obj bs) =
      memberDiff (some (obj (strippedMembers bs))) (some (obj (strippedMembers xs))) := by
  rw [diff, stripServerFields_obj, stripServerFields_obj,
    memberDiff_obj (sorted_strippedMembers hbs) (sorted_strippedMembers hxs)]

end Document

end Reconciler
