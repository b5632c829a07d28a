import Reconciler.Proofs.Document.Convergence

namespace Reconciler.Document

/-!
# Patches

A patch is merged into a document with itself as what was applied last, so it withdraws
nothing.

* `patched` — what a patch makes of a value, where either of them may be missing;
* `get?_patch`, `member?_patched` — a member of a patched object;
* `patched_patched` — the same patch a second time;
* `Independent` — two patches that share no value;
* `merge_comm_of_independent` — independent patches may be merged in either order.
-/

/-- What a patch makes of a value.  Without a patch the value stays, and without a value the
    patch stands in its place. -/
def patched : Option Document → Option Document → Option Document
  | o, none => o
  | none, some p => some p
  | some o, some p => some (merge o p p)

/-- A member of a patched object is the patched member. -/
theorem get?_patch (k : String) (observed patch : List (String × Document)) :
    Entries.get? k (mergedMembers observed (obj patch) patch) =
      patched (Entries.get? k observed) (Entries.get? k patch) := by
  rw [get?_mergedMembers_self]
  cases Entries.get? k patch <;> cases Entries.get? k observed <;> rfl

/-- Patched members stay sorted. -/
theorem sorted_patch {observed : List (String × Document)} (h : Entries.Sorted observed)
    (patch : List (String × Document)) :
    Entries.Sorted (mergedMembers observed (obj patch) patch) :=
  sorted_mergeMembers (List.Pairwise.filter _ h) patch

/-- Whatever is no object takes the place of the value. -/
theorem patched_of_kind {q : Document} (h : q.kind ≠ .object) (o : Option Document) :
    patched o (some q) = some q := by
  cases o with
  | none => rfl
  | some o => exact congrArg some (merge_eq_right (.inl h) q)

/-- Null is the one document of its kind. -/
theorem isNull_iff_kind {d : Document} : d.isNull = true ↔ d.kind = .null := by
  cases d <;> simp [isNull, kind]

/-- A patched value is of the kind of the patch. -/
theorem kind_patched (o : Option Document) (q : Document) :
    ∃ d, patched o (some q) = some d ∧ d.kind = q.kind := by
  cases o with
  | none => exact ⟨q, rfl, rfl⟩
  | some o =>
    refine ⟨merge o q q, rfl, ?_⟩
    rcases merge_eq_or o q q with ⟨observed, desired, rfl, rfl⟩ | heq
    · rw [merge_obj]
      rfl
    · rw [heq]

/-- A patched member has the kind that the patch has. -/
theorem kind_of_patched {o : Option Document} {q d : Document} (h : patched o (some q) = some d) :
    d.kind = q.kind := by
  obtain ⟨d', hd', hkind⟩ := kind_patched o q
  rwa [← Option.some.inj (h.symm.trans hd')] at hkind

/-- The members of what an object is patched to, or of what a patch without a value stands
    for. -/
theorem member?_patched {o p : Option Document} {d : Document}
    (ho : ∀ x ∈ o, x.kind = .object) (hd : d.kind = .object) (h : patched o p = some d)
    (k : String) : d.member? k = patched (o.bind (member? k)) (p.bind (member? k)) := by
  cases p with
  | none =>
    have ho : o = some d := h
    rw [ho]
    rfl
  | some q =>
    -- A patch that is no object takes the place of the whole value, and then its kind is that of
    -- `d`.
    obtain ⟨patch, rfl⟩ := kind_eq_object_iff.mp ((kind_of_patched h).symm.trans hd)
    cases o with
    | none =>
      rw [← Option.some.inj h]
      show member? k (obj patch) = patched none (member? k (obj patch))
      cases member? k (obj patch) <;> rfl
    | some x =>
      obtain ⟨observed, rfl⟩ := kind_eq_object_iff.mp (ho x rfl)
      rw [← Option.some.inj h, merge_obj]
      exact get?_patch k observed patch

/-- A value that a patch leaves is the one before. -/
theorem walk_patched_of_leaves {o : Option Document} {q d : Document} {steps : List Segment}
    (hq : q.Leaves steps) (h : patched o (some q) = some d) :
    d.walk steps = o.bind (walk steps) := by
  cases o with
  | none =>
    rw [← Option.some.inj h]
    exact walk_eq_none_of_leaves hq
  | some o =>
    rw [← Option.some.inj h]
    exact walk_merge_of_leaves hq o

/-! ### The same patch again -/

/-- A patch of well-formed documents makes a well-formed one. -/
theorem wellFormed_patched {o p : Option Document} {d : Document} (ho : ∀ x ∈ o, x.WellFormed)
    (hp : ∀ q ∈ p, q.WellFormed) (h : patched o p = some d) : d.WellFormed := by
  cases p with
  | none => exact ho d h
  | some q =>
    cases o with
    | none => exact hp d h
    | some x => exact Option.some.inj h ▸ wellFormed_merge x q q (ho x rfl) (hp q rfl)

/-- A patch leaves what it has made of a value. -/
theorem patched_patched {o p : Option Document} (ho : ∀ x ∈ o, x.WellFormed)
    (hp : ∀ q ∈ p, q.WellFormed) : patched (patched o p) p = patched o p := by
  cases p with
  | none => rfl
  | some q =>
    cases o with
    | none => exact congrArg some (merge_self (hp q rfl) q)
    | some x => exact congrArg some (merge_merge (ho x rfl) (hp q rfl) (.inl rfl))

/-! ### Independent patches -/

/-- Both patches are objects, and every key that they share holds independent patches in
    both of them. -/
inductive Independent : Document → Document → Prop
  | obj {ps qs : List (String × Document)}
      (shared : ∀ k p q, Entries.get? k ps = some p → Entries.get? k qs = some q →
        Independent p q) : Independent (obj ps) (obj qs)

/-- A patch merged into an independent one is their union, whichever comes first. -/
theorem Independent.merge_comm {p q : Document} (h : Independent p q) (hp : p.WellFormed)
    (hq : q.WellFormed) : merge p q q = merge q p p := by
  induction h with
  | @obj ps qs shared ih =>
    have hpq := wellFormed_merge (.obj ps) (.obj qs) (.obj qs) hp hq
    have hqp := wellFormed_merge (.obj qs) (.obj ps) (.obj ps) hq hp
    rw [merge_obj] at hpq
    rw [merge_obj] at hqp
    rw [merge_obj, merge_obj]
    -- Sorted members are the same when each key finds the same on both sides.
    refine congrArg Document.obj (Entries.ext hpq.1 hqp.1 fun k => ?_)
    rw [get?_patch, get?_patch]
    cases hpk : Entries.get? k ps with
    | none => cases Entries.get? k qs <;> rfl
    | some p =>
      cases hqk : Entries.get? k qs with
      | none => rfl
      | some q => exact congrArg some (ih k p q hpk hqk (hp.2.get? hpk) (hq.2.get? hqk))

/-- Two independent patches may be merged into a document in either order. -/
theorem merge_comm_of_independent {o p q : Document} (h : Independent p q) (ho : o.WellFormed)
    (hp : p.WellFormed) (hq : q.WellFormed) :
    merge (merge o p p) q q = merge (merge o q q) p p := by
  -- On the shared keys of the patches.  Where the document has no object for two patches to
  -- be merged into, the first one stands in its place, and the second one is merged into it.
  induction h generalizing o with
  | @obj ps qs shared ih =>
    cases o with
    | obj observed =>
      have hop := wellFormed_merge (.obj observed) (.obj ps) (.obj ps) ho hp
      have hoq := wellFormed_merge (.obj observed) (.obj qs) (.obj qs) ho hq
      have hpq := wellFormed_merge _ (.obj qs) (.obj qs) hop hq
      have hqp := wellFormed_merge _ (.obj ps) (.obj ps) hoq hp
      simp only [merge_obj] at hpq hqp ⊢
      refine congrArg Document.obj (Entries.ext hpq.1 hqp.1 fun k => ?_)
      simp only [get?_patch]
      cases hpk : Entries.get? k ps with
      | none => cases Entries.get? k qs <;> rfl
      | some p =>
        cases hqk : Entries.get? k qs with
        | none => cases Entries.get? k observed <;> rfl
        | some q =>
          have hp' := hp.2.get? hpk
          have hq' := hq.2.get? hqk
          cases hok : Entries.get? k observed with
          | none => exact congrArg some ((shared k p q hpk hqk).merge_comm hp' hq')
          | some o => exact congrArg some (ih k p q hpk hqk (ho.2.get? hok) hp' hq')
    | _ => exact (Independent.obj shared).merge_comm hp hq

end Reconciler.Document
