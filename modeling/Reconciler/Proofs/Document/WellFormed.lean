import Reconciler.Document.Merge

namespace Reconciler.Document

/-!
# Sorted objects

The members of every object that is read are sorted by their keys, and what is done to
documents keeps them so.

* `MembersWellFormed.insert`, `MembersWellFormed.get?` — members of well-formed objects;
* `sorted_mergeMembers` — members laid over sorted ones;
* `wellFormed_merge` — a merge of well-formed documents.
-/

/-! ### Members -/

/-- A well-formed member is set among well-formed ones. -/
theorem MembersWellFormed.insert {members : List (String × Document)} {d : Document}
    (h : MembersWellFormed members) (hd : d.WellFormed) (k : String) :
    MembersWellFormed (Entries.insert k d members) := by
  rw [membersWellFormed_iff] at h ⊢
  intro e he
  rcases Entries.mem_insert he with rfl | he
  · exact hd
  · exact h e he

/-- The value of a member of a well-formed object is well formed. -/
theorem MembersWellFormed.get? {members : List (String × Document)} {k : String} {d : Document}
    (h : MembersWellFormed members) (hk : Entries.get? k members = some d) : d.WellFormed :=
  membersWellFormed_iff.mp h _ (Entries.mem_of_get?_eq_some hk)

/-- The value of a member of a well-formed document, where there is either. -/
theorem wellFormed_bind_member? {d : Option Document} (h : ∀ x ∈ d, x.WellFormed) (k : String) :
    ∀ x ∈ d.bind (member? k), x.WellFormed := by
  intro x hx
  obtain ⟨d, rfl, hget⟩ := Option.bind_eq_some_iff.mp hx
  cases d with
  | obj members => exact (h _ rfl).2.get? hget
  | _ => simp [member?] at hget

/-! ### Merges -/

/-- Members that are laid over sorted ones are set in their places, whatever they hold. -/
theorem sorted_mergeMembers {observed last kept : List (String × Document)}
    (h : Entries.Sorted kept) (desired : List (String × Document)) :
    Entries.Sorted (mergeMembers observed last kept desired) := by
  induction desired with
  | nil => exact h
  | cons e rest ih => exact ih.insert e.1 _

mutual

/-- A merge of well-formed documents is well formed. -/
theorem wellFormed_merge : ∀ (o l d : Document), o.WellFormed → d.WellFormed →
    (merge o l d).WellFormed
  | o, l, obj desired, ho, hd => by
    cases o with
    | obj observed =>
      rw [WellFormed] at ho hd
      rw [merge, WellFormed]
      refine sorted_and_wellFormed_mergeMembers _ _ _ desired ho.2 hd.2 ⟨?_, ?_⟩
      · exact List.Pairwise.filter _ ho.1
      · rw [membersWellFormed_iff]
        intro e he
        exact membersWellFormed_iff.mp ho.2 e (List.mem_filter.mp he).1
    | _ => exact hd
  | o, l, arr items, _, hd => hd
  | o, l, null, _, hd => hd
  | o, l, bool b, _, hd => hd
  | o, l, num n, _, hd => hd
  | o, l, str s, _, hd => hd
termination_by structural _ _ d => d

/-- Laying well-formed members over sorted ones keeps them sorted. -/
theorem sorted_and_wellFormed_mergeMembers :
    ∀ (observed last kept desired : List (String × Document)), MembersWellFormed observed →
      MembersWellFormed desired → Entries.Sorted kept ∧ MembersWellFormed kept →
      Entries.Sorted (mergeMembers observed last kept desired) ∧
        MembersWellFormed (mergeMembers observed last kept desired)
  | _, _, kept, [], _, _, hkept => hkept
  | observed, last, kept, (k, d) :: rest, hobserved, hdesired, hkept => by
    rw [MembersWellFormed] at hdesired
    obtain ⟨hd, hrest⟩ := hdesired
    obtain ⟨hsorted, hvalues⟩ :=
      sorted_and_wellFormed_mergeMembers observed last kept rest hobserved hrest hkept
    rw [mergeMembers]
    refine ⟨hsorted.insert k _, hvalues.insert ?_ k⟩
    cases hk : Entries.get? k observed with
    | none => exact hd
    | some o => exact wellFormed_merge o _ d (hobserved.get? hk) hd
termination_by structural _ _ _ desired => desired

end

end Reconciler.Document
