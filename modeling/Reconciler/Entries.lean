namespace Reconciler

open Std (TransOrd LawfulEqOrd)

/-!
# Entries sorted by key

A table is a list of entries in strictly increasing order of their keys.  The
operations below act on any list of entries; what they do to a lookup needs no
order, and order is needed only to conclude that equal lookups mean equal lists.

* `Entries.get?`, `Entries.insert`, `Entries.erase`, `Entries.ofList`,
  `Entries.overlay` — the operations;
* `Entries.Sorted` — strictly increasing keys, kept by each of them;
* `Entries.ext` — sorted lists with the same lookups are equal;
* `Table` — sorted entries with the proof that they are sorted.
-/

namespace Entries

variable {κ : Type _} {α β : Type _}

/-- The value of the first entry with key `k`. -/
def get? [DecidableEq κ] (k : κ) : List (κ × α) → Option α
  | [] => none
  | (k', v) :: rest => if k = k' then some v else get? k rest

/-- Sets the value of `k`, in its place by key order. -/
def insert [Ord κ] (k : κ) (v : α) : List (κ × α) → List (κ × α)
  | [] => [(k, v)]
  | (k', v') :: rest =>
    match compare k k' with
    | .lt => (k, v) :: (k', v') :: rest
    | .eq => (k, v) :: rest
    | .gt => (k', v') :: insert k v rest

/-- Without the entries of `k`. -/
def erase [DecidableEq κ] (k : κ) (entries : List (κ × α)) : List (κ × α) :=
  entries.filter (·.1 ≠ k)

/-- The sorted entries of a list in any order; the last value of a key stays. -/
def ofList [Ord κ] (entries : List (κ × α)) : List (κ × α) :=
  entries.foldl (fun acc e => insert e.1 e.2 acc) []

/-- The entries of `base` with those of `top` set over them. -/
def overlay [Ord κ] (top base : List (κ × α)) : List (κ × α) :=
  top.foldr (fun e acc => insert e.1 e.2 acc) base

/-- Strictly increasing keys. -/
def Sorted [Ord κ] (entries : List (κ × α)) : Prop :=
  entries.Pairwise fun a b => compare a.1 b.1 = .lt

instance [Ord κ] (entries : List (κ × α)) : Decidable (Sorted entries) :=
  inferInstanceAs (Decidable (entries.Pairwise fun a b => compare a.1 b.1 = .lt))

/-! ### Lookups -/

section Lookup

variable [DecidableEq κ]

@[simp] theorem get?_nil (k : κ) : get? k ([] : List (κ × α)) = none := rfl

theorem get?_cons (k k' : κ) (v : α) (rest : List (κ × α)) :
    get? k ((k', v) :: rest) = if k = k' then some v else get? k rest := rfl

/-- Nothing is found for a key that no entry has. -/
theorem get?_eq_none_iff {k : κ} {l : List (κ × α)} : get? k l = none ↔ k ∉ l.map (·.1) := by
  induction l with
  | nil => simp
  | cons e rest ih =>
    obtain ⟨k', v⟩ := e
    by_cases h : k = k' <;> simp [get?_cons, h, ih]

/-- What is found is an entry. -/
theorem mem_of_get?_eq_some {k : κ} {v : α} {l : List (κ × α)} (h : get? k l = some v) :
    (k, v) ∈ l := by
  induction l with
  | nil => simp at h
  | cons e rest ih =>
    obtain ⟨k', v'⟩ := e
    by_cases hk : k = k'
    · simp [get?_cons, hk] at h
      simp [hk, h]
    · simp [get?_cons, hk] at h
      exact List.mem_cons_of_mem _ (ih h)

/-- The first entry goes when it has the key. -/
theorem erase_cons (k k' : κ) (v : α) (l : List (κ × α)) :
    erase k ((k', v) :: l) = if k' = k then erase k l else (k', v) :: erase k l := by
  by_cases h : k' = k <;> simp [erase, h]

/-- Erasing a key leaves the lookups of the others. -/
theorem get?_erase (k k' : κ) (l : List (κ × α)) :
    get? k (erase k' l) = if k = k' then none else get? k l := by
  induction l with
  | nil => simp [erase]
  | cons e rest ih =>
    obtain ⟨k'', v⟩ := e
    rw [erase_cons]
    by_cases h : k'' = k'
    · by_cases hk : k = k' <;> simp_all [get?_cons]
    · by_cases hk : k = k''
      · simp [get?_cons, h, hk]
      · simp [get?_cons, h, hk, ih]

/-- A choice of entries by their keys keeps or drops a lookup as a whole. -/
theorem get?_filter_key (k : κ) (p : κ → Bool) (l : List (κ × α)) :
    get? k (l.filter fun e => p e.1) = if p k then get? k l else none := by
  induction l with
  | nil => simp
  | cons e rest ih =>
    obtain ⟨k', v⟩ := e
    rw [List.filter_cons]
    by_cases h : k = k'
    · subst h
      by_cases hp : p k <;> simp [get?_cons, hp, ih]
    · by_cases hp : p k' <;> simp [get?_cons, h, hp, ih]

variable [Ord κ] [LawfulEqOrd κ]

/-- Setting a key leaves the lookups of the others. -/
theorem get?_insert (k k' : κ) (v : α) (l : List (κ × α)) :
    get? k (insert k' v l) = if k = k' then some v else get? k l := by
  induction l with
  | nil => rfl
  | cons e rest ih =>
    obtain ⟨k'', v''⟩ := e
    unfold insert
    split
    · rfl
    · next h =>
      rw [LawfulEqOrd.compare_eq_iff_eq] at h
      subst h
      by_cases hk : k = k' <;> simp [get?_cons, hk]
    · next h =>
      -- The new entry goes further down, past a key that is not its own.
      have hne : k' ≠ k'' := fun he => by simp [he] at h
      by_cases hk : k = k''
      · simp [get?_cons, hk, Ne.symm hne]
      · simp [get?_cons, hk, ih]

@[simp] theorem get?_insert_self (k : κ) (v : α) (l : List (κ × α)) :
    get? k (insert k v l) = some v := by
  simp [get?_insert]

/-- The entries on top are found first. -/
theorem get?_overlay (k : κ) (top base : List (κ × α)) :
    get? k (overlay top base) = (get? k top).or (get? k base) := by
  induction top with
  | nil => rfl
  | cons e rest ih =>
    obtain ⟨k', v⟩ := e
    show get? k (insert k' v (overlay rest base)) = _
    rw [get?_insert, get?_cons, ih]
    by_cases h : k = k' <;> simp [h]

end Lookup

/-! ### Order -/

section Order

variable [Ord κ]

theorem sorted_nil : Sorted ([] : List (κ × α)) := List.Pairwise.nil

/-- An entry of the result is the new one or was there before. -/
theorem mem_insert {k : κ} {v : α} {e : κ × α} {l : List (κ × α)} (h : e ∈ insert k v l) :
    e = (k, v) ∨ e ∈ l := by
  induction l with
  | nil => simpa [insert] using h
  | cons e' rest ih =>
    unfold insert at h
    split at h <;> grind

/-- Without some entries the others stay sorted. -/
theorem Sorted.erase [DecidableEq κ] {l : List (κ × α)} (h : Sorted l) (k : κ) :
    Sorted (Entries.erase k l) :=
  List.Pairwise.filter _ h

/-- Entries are sorted by their keys alone. -/
theorem Sorted.map_values {l : List (κ × α)} (h : Sorted l) (f : κ → α → β) :
    Sorted (l.map fun e => (e.1, f e.1 e.2)) := by
  unfold Sorted at h ⊢
  rw [List.pairwise_map]
  exact h

/-- In sorted entries the head key occurs only at the head. -/
theorem Sorted.get?_tail [LawfulEqOrd κ] [DecidableEq κ] {k : κ} {v : α} {l : List (κ × α)} (h : Sorted ((k, v) :: l)) :
    get? k l = none := by
  rw [get?_eq_none_iff]
  intro hm
  obtain ⟨e, he, hk⟩ := List.mem_map.mp hm
  have hlt := (List.pairwise_cons.mp h).1 e he
  simp [hk] at hlt

variable [TransOrd κ] [LawfulEqOrd κ]

/-- A new entry is put in its place. -/
theorem Sorted.insert {l : List (κ × α)} (h : Sorted l) (k : κ) (v : α) :
    Sorted (Entries.insert k v l) := by
  induction l with
  | nil => simp [Entries.insert, Sorted]
  | cons e rest ih =>
    obtain ⟨k', v'⟩ := e
    obtain ⟨hhead, htail⟩ := List.pairwise_cons.mp h
    unfold Entries.insert
    split
    · next hlt =>
      refine List.pairwise_cons.mpr ⟨fun e he => ?_, h⟩
      rcases List.mem_cons.mp he with rfl | he
      · exact hlt
      · exact Std.TransCmp.lt_trans hlt (hhead e he)
    · next heq =>
      rw [LawfulEqOrd.compare_eq_iff_eq] at heq
      subst heq
      exact List.pairwise_cons.mpr ⟨hhead, htail⟩
    · next hgt =>
      -- The head stays, since every key behind it was greater and the new one is.
      refine List.pairwise_cons.mpr ⟨fun e he => ?_, ih htail⟩
      rcases mem_insert he with rfl | he
      · exact Std.OrientedCmp.gt_iff_lt.mp hgt
      · exact hhead e he

/-- Only the entries below have to be sorted. -/
theorem Sorted.overlay {base : List (κ × α)} (h : Sorted base) (top : List (κ × α)) :
    Sorted (Entries.overlay top base) := by
  induction top with
  | nil => exact h
  | cons e rest ih => exact ih.insert e.1 e.2

/-- Entries in any order become sorted ones. -/
theorem sorted_ofList (l : List (κ × α)) : Sorted (ofList l) := by
  unfold ofList
  suffices h : ∀ acc : List (κ × α), Sorted acc →
      Sorted (l.foldl (fun acc e => insert e.1 e.2 acc) acc) from h [] sorted_nil
  induction l with
  | nil => exact fun acc h => h
  | cons e rest ih => exact fun acc h => ih _ (h.insert e.1 e.2)

variable [DecidableEq κ]

/-- Sorted entries are determined by their lookups. -/
theorem ext {l m : List (κ × α)} (hl : Sorted l) (hm : Sorted m)
    (h : ∀ k, get? k l = get? k m) : l = m := by
  induction l generalizing m with
  | nil =>
    cases m with
    | nil => rfl
    | cons e m =>
      obtain ⟨k, v⟩ := e
      have := h k
      simp [get?_cons] at this
  | cons a l ih =>
    obtain ⟨k, v⟩ := a
    cases m with
    | nil =>
      have := h k
      simp [get?_cons] at this
    | cons b m =>
      obtain ⟨k', v'⟩ := b
      -- If the heads had different keys, each would stand behind the other.
      have key : k = k' := by
        by_cases hk : k = k'
        · exact hk
        · have h1 := h k
          have h2 := h k'
          simp only [get?_cons, if_true, if_neg hk, if_neg (Ne.symm hk)] at h1 h2
          have hm1 := (List.pairwise_cons.mp hm).1 _ (mem_of_get?_eq_some h1.symm)
          have hl1 := (List.pairwise_cons.mp hl).1 _ (mem_of_get?_eq_some h2)
          have := Std.TransCmp.lt_trans hm1 hl1
          simp at this
      subst key
      have hv := h k
      simp only [get?_cons, if_true, Option.some.injEq] at hv
      subst hv
      refine congrArg _ (ih (List.pairwise_cons.mp hl).2 (List.pairwise_cons.mp hm).2 fun j => ?_)
      have hj := h j
      by_cases hjk : j = k
      · subst hjk
        rw [hl.get?_tail, hm.get?_tail]
      · simpa [get?_cons, hjk] using hj

end Order

end Entries

/-! ### Tables -/

/-- Entries in strictly increasing order of their keys. -/
structure Table (κ α : Type) [Ord κ] where
  entries : List (κ × α)
  sorted : Entries.Sorted entries

namespace Table

variable {κ α : Type} [Ord κ]

instance [DecidableEq κ] [DecidableEq α] : DecidableEq (Table κ α) := fun a b =>
  decidable_of_iff (a.entries = b.entries)
    ⟨fun h => by cases a; cases b; cases h; rfl, fun h => h ▸ rfl⟩

/-- The table without entries. -/
def empty : Table κ α := ⟨[], Entries.sorted_nil⟩

instance : Inhabited (Table κ α) := ⟨empty⟩

/-- The number of entries. -/
def size (t : Table κ α) : Nat := t.entries.length

/-- The value of `k`. -/
def get? [DecidableEq κ] (t : Table κ α) (k : κ) : Option α := Entries.get? k t.entries

/-- The values, in the order of their keys. -/
def values (t : Table κ α) : List α := t.entries.map (·.2)

/-- Without the entry of `k`. -/
def erase [DecidableEq κ] (t : Table κ α) (k : κ) : Table κ α :=
  ⟨Entries.erase k t.entries, t.sorted.erase k⟩

/-- The entries that satisfy `p`. -/
def filter (t : Table κ α) (p : κ → α → Bool) : Table κ α :=
  ⟨t.entries.filter fun e => p e.1 e.2, List.Pairwise.filter _ t.sorted⟩

@[simp] theorem get?_empty [DecidableEq κ] (k : κ) : (empty : Table κ α).get? k = none := rfl

/-- Erasing a key leaves the lookups of the others. -/
theorem get?_erase [DecidableEq κ] (t : Table κ α) (k k' : κ) :
    (t.erase k').get? k = if k = k' then none else t.get? k :=
  Entries.get?_erase k k' t.entries

variable [TransOrd κ] [LawfulEqOrd κ]

/-- Sets the value of `k`. -/
def insert (t : Table κ α) (k : κ) (v : α) : Table κ α :=
  ⟨Entries.insert k v t.entries, t.sorted.insert k v⟩

/-- The table of a list of entries; the last value of a key stays. -/
def ofList (entries : List (κ × α)) : Table κ α :=
  ⟨Entries.ofList entries, Entries.sorted_ofList entries⟩

/-- Setting a key leaves the lookups of the others. -/
theorem get?_insert [DecidableEq κ] (t : Table κ α) (k k' : κ) (v : α) :
    (t.insert k' v).get? k = if k = k' then some v else t.get? k :=
  Entries.get?_insert k k' v t.entries

/-- A table is determined by its lookups. -/
theorem ext [DecidableEq κ] {t u : Table κ α} (h : ∀ k, t.get? k = u.get? k) : t = u := by
  cases t; cases u
  congr
  exact Entries.ext ‹_› ‹_› h

end Table

end Reconciler
