import Mathlib.Data.List.Nodup
import Reconciler.Entries

namespace Reconciler

open Std (TransOrd LawfulEqOrd)

/-!
# Entries in the order of their keys

* `Entries.get?_map_entries`, `Entries.get?_map_values` — a lookup among entries with other values;
* `Entries.isSome_get?_iff` — the keys that have a value;
* `Entries.Sorted.get?_eq_some_iff` — sorted entries are what can be looked up;
* `Entries.insert_insert`, `Entries.Sorted.insert_of_get?` — a value set again, or set where it is;
* `Entries.Sorted.keys_eq` — the keys of sorted entries, from those that have a value;
* `Entries.insert_eq_append` — an entry with a key beyond all others goes to the end;
* `Entries.ofList_of_sorted` — entries that are sorted already are their own table;
* `Table.get?_foldl_insert` — a lookup after setting several entries;
* `Table.get?_ofList`, `Table.ofList_perm` — the table of a list of entries, whose order is of
  no matter when their keys are distinct;
* `Table.extend`, `Table.forall_extend` — the entries of two tables.
-/

namespace Entries

variable {κ : Type _} {α β : Type _}

/-- Values that change by their keys are found changed. -/
theorem get?_map_entries [DecidableEq κ] (k : κ) (f : κ → α → β) (l : List (κ × α)) :
    get? k (l.map fun e => (e.1, f e.1 e.2)) = (get? k l).map (f k) := by
  induction l with
  | nil => rfl
  | cons e rest ih =>
    obtain ⟨k', v⟩ := e
    rw [List.map_cons, get?_cons, get?_cons, ih]
    split
    · next h => rw [h, Option.map_some]
    · rfl

/-- Values that change are found changed. -/
theorem get?_map_values [DecidableEq κ] (k : κ) (f : α → β) (l : List (κ × α)) :
    get? k (l.map fun e => (e.1, f e.2)) = (get? k l).map f :=
  get?_map_entries k (fun _ => f) l

/-- Something is found for the keys that there are. -/
theorem isSome_get?_iff [DecidableEq κ] {k : κ} {l : List (κ × α)} :
    (get? k l).isSome = true ↔ k ∈ l.map (·.1) := by
  cases h : get? k l with
  | none => simpa using get?_eq_none_iff.mp h
  | some v => simpa using ⟨v, mem_of_get?_eq_some h⟩

/-! ### Order -/

variable [Ord κ]

/-- Sorted entries have one value for each key, so each of them can be looked up. -/
theorem Sorted.get?_eq_some_iff [LawfulEqOrd κ] [DecidableEq κ] {k : κ} {v : α}
    {l : List (κ × α)} (h : Sorted l) : get? k l = some v ↔ (k, v) ∈ l := by
  refine ⟨mem_of_get?_eq_some, fun hmem => ?_⟩
  -- The head has the key only if it is the entry, since no later key is equal to it.
  induction l with
  | nil => cases hmem
  | cons e rest ih =>
    obtain ⟨k', v'⟩ := e
    rcases List.mem_cons.mp hmem with heq | hrest
    · obtain ⟨rfl, rfl⟩ := Prod.mk.inj heq
      rw [get?_cons, if_pos rfl]
    · have hne : k ≠ k' := by
        rintro rfl
        exact get?_eq_none_iff.mp h.get?_tail (List.mem_map_of_mem hrest)
      rw [get?_cons, if_neg hne]
      exact ih (List.pairwise_cons.mp h).2 hrest

/-- Of two values of a key the second one stays. -/
theorem insert_insert [LawfulEqOrd κ] (k : κ) (v v' : α) (l : List (κ × α)) :
    insert k v' (insert k v l) = insert k v' l := by
  have hself : compare k k = .eq := Std.ReflOrd.compare_self
  induction l with
  | nil => simp only [insert, hself]
  | cons e rest ih =>
    obtain ⟨k', w⟩ := e
    -- Both insertions stop at the same place.
    cases hk : compare k k' with
    | lt => simp only [insert, hk, hself]
    | eq => simp only [insert, hk, hself]
    | gt => simp only [insert, hk, ih]

variable [TransOrd κ]

/-- Sorted entries stay as they are when the value of a key is set that they have for it. -/
theorem Sorted.insert_of_get? [LawfulEqOrd κ] [DecidableEq κ] {k : κ} {v : α}
    {l : List (κ × α)} (h : Sorted l) (hget : get? k l = some v) : Entries.insert k v l = l := by
  refine ext (h.insert k v) h fun j => ?_
  rw [get?_insert]
  split
  · next hj => rw [hj, hget]
  · rfl

/-- Sorted entries that have values for the same keys have them in the same places. -/
theorem Sorted.keys_eq [LawfulEqOrd κ] [DecidableEq κ] {l : List (κ × α)} {m : List (κ × β)}
    (hl : Sorted l) (hm : Sorted m) (h : ∀ k, (get? k l).isSome = (get? k m).isSome) :
    l.map (·.1) = m.map (·.1) := by
  -- Without their values the entries are the same.
  have hbare : (l.map fun e => (e.1, ())) = m.map fun e => (e.1, ()) := by
    refine ext (hl.map_values fun _ _ => ()) (hm.map_values fun _ _ => ()) fun k => ?_
    rw [get?_map_values k fun _ => (), get?_map_values k fun _ => ()]
    have hk := h k
    cases hl : get? k l <;> cases hm : get? k m <;> simp_all
  have hkeys := congrArg (List.map (·.1)) hbare
  simpa [Function.comp_def] using hkeys

/-- A key behind all others goes to the end. -/
theorem insert_eq_append {k : κ} {v : α} {l : List (κ × α)}
    (h : ∀ e ∈ l, compare e.1 k = .lt) : insert k v l = l ++ [(k, v)] := by
  induction l with
  | nil => rfl
  | cons e rest ih =>
    rw [List.forall_mem_cons] at h
    have hgt : compare k e.1 = .gt := Std.OrientedCmp.gt_iff_lt.mpr h.1
    rw [insert, hgt]
    exact congrArg (e :: ·) (ih h.2)

/-- Setting sorted entries one after the other, beyond those that are there. -/
theorem foldl_insert_of_sorted {acc l : List (κ × α)} (h : Sorted (acc ++ l)) :
    l.foldl (fun acc e => insert e.1 e.2 acc) acc = acc ++ l := by
  induction l generalizing acc with
  | nil => simp
  | cons e rest ih =>
    have hlast : ∀ e' ∈ acc, compare e'.1 e.1 = .lt := by
      intro e' he'
      exact (List.pairwise_append.mp h).2.2 e' he' e (by simp)
    rw [List.foldl_cons, insert_eq_append hlast, ih (by simpa using h)]
    simp

/-- Sorted entries are their own table. -/
theorem ofList_of_sorted {l : List (κ × α)} (h : Sorted l) : ofList l = l := by
  have hnil : Sorted ([] ++ l) := h
  exact foldl_insert_of_sorted hnil

end Entries

/-! ### Tables -/

namespace Table

variable {κ α : Type} [Ord κ] [LawfulEqOrd κ]

/-- The entries of a table are what can be looked up in it. -/
theorem mem_entries_iff [DecidableEq κ] {t : Table κ α} {k : κ} {v : α} :
    (k, v) ∈ t.entries ↔ t.get? k = some v :=
  t.sorted.get?_eq_some_iff.symm

/-- Of a choice of entries one finds those that are chosen. -/
theorem get?_filter [DecidableEq κ] (t : Table κ α) (p : κ → α → Bool) (k : κ) :
    (t.filter p).get? k = (t.get? k).filter (p k) := by
  refine Option.ext fun v => ?_
  rw [← mem_entries_iff, Option.filter_eq_some_iff, ← mem_entries_iff]
  exact List.mem_filter

variable [TransOrd κ]

/-- The entries of a list are set one after the other. -/
theorem ofList_eq_foldl (l : List (κ × α)) :
    ofList l = l.foldl (fun t e => t.insert e.1 e.2) empty := by
  have hentries : (l.foldl (fun t e => t.insert e.1 e.2) empty).entries = Entries.ofList l :=
    (List.foldl_hom entries fun _ _ => rfl).symm
  cases h : l.foldl (fun t e => t.insert e.1 e.2) empty
  rw [h] at hentries
  subst hentries
  rfl

variable [DecidableEq κ]

/-- A table after setting the entries of a list, the last of which counts for its key. -/
theorem get?_foldl_insert (l : List (κ × α)) (t : Table κ α) (k : κ) :
    (l.foldl (fun t e => t.insert e.1 e.2) t).get? k = (l.reverse.lookup k).or (t.get? k) := by
  -- On the entries, with any table to begin with: the last entry of a key is the one that stays.
  induction l generalizing t with
  | nil => rfl
  | cons e rest ih =>
    obtain ⟨k', v⟩ := e
    rw [List.foldl_cons, ih, get?_insert, List.reverse_cons, List.lookup_append, Option.or_assoc]
    by_cases hk : k = k'
    · simp [hk]
    · have hbeq : (k == k') = false := beq_eq_false_iff_ne.mpr hk
      simp [hk, hbeq, List.lookup_cons]

/-- The last entry of a list counts for its key. -/
theorem get?_ofList (l : List (κ × α)) (k : κ) : (ofList l).get? k = l.reverse.lookup k := by
  rw [ofList_eq_foldl, get?_foldl_insert, get?_empty, Option.or_none]

/-- Entries of different keys are set in either order. -/
theorem insert_comm {k k' : κ} (h : k ≠ k') (t : Table κ α) (v v' : α) :
    (t.insert k v).insert k' v' = (t.insert k' v').insert k v := by
  refine ext fun j => ?_
  simp only [get?_insert]
  by_cases hj : j = k
  · subst hj
    simp [h]
  · simp [hj]

/-- Entries with distinct keys make one table, in whatever order they come. -/
theorem ofList_perm {l m : List (κ × α)} (h : l.Perm m) (hkeys : (l.map (·.1)).Nodup) :
    ofList l = ofList m := by
  rw [ofList_eq_foldl, ofList_eq_foldl]
  refine h.foldl_eq' (fun e he e' he' t => ?_) empty
  by_cases hkey : e.1 = e'.1
  · rw [List.inj_on_of_nodup_map hkeys he he' hkey]
  · exact insert_comm hkey t e.2 e'.2

/-! ### Two tables -/

/-- The entries of both tables; those of the second one count for its keys. -/
def extend (t u : Table κ α) : Table κ α :=
  u.entries.foldl (fun t e => t.insert e.1 e.2) t

/-- The tables have the same value for every key that both have. -/
def Compatible (t u : Table κ α) : Prop :=
  ∀ k x y, t.get? k = some x → u.get? k = some y → x = y

/-- The second table is asked first. -/
theorem get?_extend (t u : Table κ α) (k : κ) :
    (t.extend u).get? k = (u.get? k).or (t.get? k) := by
  have hself : (ofList u.entries).get? k = u.get? k :=
    congrArg (Entries.get? k) (Entries.ofList_of_sorted u.sorted)
  rw [extend, get?_foldl_insert, ← get?_ofList, hself]

/-- What holds for all entries of both is what holds for those of each. -/
theorem forall_extend {t u : Table κ α} (h : t.Compatible u) (P : κ → α → Prop) :
    (∀ k x, (t.extend u).get? k = some x → P k x) ↔
      (∀ k x, t.get? k = some x → P k x) ∧ ∀ k x, u.get? k = some x → P k x := by
  simp only [get?_extend, Option.or_eq_some_iff]
  constructor
  · intro hall
    refine ⟨fun k x hx => hall k x ?_, fun k x hx => hall k x (.inl hx)⟩
    -- A value of the one table is hidden by the other one only if both have the same.
    cases hu : u.get? k with
    | none => exact .inr ⟨rfl, hx⟩
    | some y => exact .inl (by rw [h k x y hx hu])
  · rintro ⟨ht, hu⟩ k x (hx | ⟨-, hx⟩)
    · exact hu k x hx
    · exact ht k x hx

end Table

end Reconciler
