import Reconciler.Proofs.Document.Pointwise

namespace Reconciler.Document

/-!
# What repeated merges come to

* `merge_last_self` — where nothing has drifted from what was applied last, a merge yields
  the desired document;
* `merge_self` — a document that is desired and observed already stays;
* `merge_merge` — a second merge changes nothing.
-/

/-- A merge over what was applied last, unchanged, leaves nothing of it over. -/
theorem merge_last_self {l d : Document} (hl : l.WellFormed) (hd : d.WellFormed) :
    merge l l d = d := by
  -- On the desired document.  A member of `l` is merged again with itself as the last
  -- applied one if it is still desired, and it is withdrawn if it is not.
  induction d using member_induction generalizing l with
  | other d hother => exact merge_eq_right (.inl hother) l
  | obj desired ih =>
    cases l with
    | obj members =>
      refine merge_obj_eq hl hd hd fun k => ?_
      rw [get?_mergedMembers, member?]
      cases hdk : Entries.get? k desired with
      | none => cases Entries.get? k members <;> rfl
      | some d =>
        cases hlk : Entries.get? k members with
        | none => rfl
        | some l => exact congrArg some (ih k d hdk (hl.2.get? hlk) (hd.2.get? hdk))
    | _ => rfl

/-- A desired document that is observed already stays, whatever was applied last. -/
theorem merge_self {d : Document} (hd : d.WellFormed) (l : Document) : merge d l d = d := by
  induction d using member_induction generalizing l with
  | other d hother => exact merge_eq_right (.inl hother) l
  | obj desired ih =>
    refine merge_obj_eq hd hd hd fun k => ?_
    rw [get?_mergedMembers]
    cases hdk : Entries.get? k desired with
    | none => cases l.member? k <;> rfl
    | some d => exact congrArg some (ih k d hdk (hd.2.get? hdk) _)

/-- A second merge changes nothing, whether the desired document or the one applied before
    it counts as last applied. -/
theorem merge_merge {o l d l' : Document} (ho : o.WellFormed) (hd : d.WellFormed)
    (hlast : l' = l ∨ l' = d) : merge (merge o l d) l' d = merge o l d := by
  -- On the desired document.  What counts as last applied stays one of the two under every
  -- desired key.
  induction d using member_induction generalizing o l l' with
  | other d hother => rw [merge_eq_right (.inl hother), merge_eq_right (.inl hother)]
  | obj desired ih =>
    cases o with
    | obj observed =>
      have hm := wellFormed_merge (obj observed) l (obj desired) ho hd
      rw [merge_obj] at hm ⊢
      refine merge_obj_eq hm hd hm fun k => ?_
      have hfirst := get?_mergedMembers k observed l desired
      rw [get?_mergedMembers k (mergedMembers observed l desired)]
      cases hdk : Entries.get? k desired with
      | none =>
        -- What is withdrawn has been withdrawn by the first merge.
        rw [hdk] at hfirst
        rcases hlast with rfl | rfl
        · rw [hfirst]
          cases l'.member? k <;> rfl
        · rw [member?, hdk]
          rfl
      | some d =>
        rw [hdk] at hfirst
        have hlast' : (l'.member? k).getD null = (l.member? k).getD null ∨
            (l'.member? k).getD null = d := by
          rcases hlast with rfl | rfl
          · exact .inl rfl
          · exact .inr (by rw [member?, hdk, Option.getD_some])
        have hd' := hd.2.get? hdk
        cases hok : Entries.get? k observed with
        | none =>
          rw [hok] at hfirst
          rw [hfirst]
          exact congrArg some (merge_self hd' _)
        | some o =>
          rw [hok] at hfirst
          rw [hfirst]
          exact congrArg some (ih k d hdk (ho.2.get? hok) hd' hlast')
    -- The first merge has put the desired object in the place of something else.
    | _ => exact merge_self hd l'

end Reconciler.Document
