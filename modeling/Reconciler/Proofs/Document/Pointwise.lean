import Reconciler.Proofs.Document.Merge
import Reconciler.Proofs.Document.WellFormed
import Reconciler.Proofs.Entries

namespace Reconciler.Document

/-!
# A merge, path by path

Where the observed and the desired document both hold objects, the merged one holds an
object too, and its members are told by those of the observed, the last applied and the
desired object.  This is all there is to say about a merge.

* `membersAt` — the members of the object that a list of keys leads to;
* `MembersMerged` — what the members of one merged object are;
* `MergedAtPaths` — the same, wherever the observed and the desired document hold objects;
* `mergedAtPaths_merge` — a merge is merged at every path;
* `eq_merge_of_mergedAtPaths` — no other document is;
* `member_induction` — induction on the objects in a document.
-/

/-! ### Objects in a document -/

/-- The members of the object that the keys lead to. -/
def membersAt : List String → Document → Option (List (String × Document))
  | [], d => d.members?
  | k :: path, d => (d.member? k).bind (membersAt path)

/-- A document of the kind of objects is an object. -/
theorem kind_eq_object_iff {d : Document} : d.kind = .object ↔ ∃ members, d = obj members := by
  cases d <;> simp [kind]

/-- What has members is the object of these. -/
theorem eq_obj_of_members? {d : Document} {members : List (String × Document)}
    (h : d.members? = some members) : d = obj members := by
  cases d <;> simp_all [members?]

/-- What has none is no object. -/
theorem members?_eq_none {d : Document} : d.members? = none ↔ d.kind ≠ .object := by
  cases d <;> simp [members?, kind]

/-- A missing value counts as null, and nothing is to be found below either. -/
theorem membersAt_getD_null (path : List String) (d : Option Document) :
    (d.getD null).membersAt path = d.bind (membersAt path) := by
  cases d with
  | some d => rfl
  | none => cases path <;> rfl

/-- Induction on the objects in a document that keys lead to.  Whatever is no object ends it,
    a list of objects too. -/
@[elab_as_elim]
theorem member_induction {motive : Document → Prop}
    (other : ∀ d, d.kind ≠ .object → motive d)
    (obj : ∀ members, (∀ k d, Entries.get? k members = some d → motive d) → motive (obj members))
    (d : Document) : motive d := by
  -- The recursor asks for lists of items too, but no motive goes through them.
  refine @Document.rec motive (fun _ => True) (fun members => ∀ e ∈ members, motive e.2)
    (fun e => motive e.2) (other _ nofun) (fun _ => other _ nofun) (fun _ => other _ nofun)
    (fun _ => other _ nofun) (fun _ _ => other _ nofun) ?object trivial (fun _ _ _ _ => trivial)
    ?noMember ?moreMembers (fun _ _ h => h) d
  case object =>
    intro members ih
    exact obj members fun k d h => ih (k, d) (Entries.mem_of_get?_eq_some h)
  case noMember => simp
  case moreMembers =>
    intro e rest he hrest
    exact List.forall_mem_cons.mpr ⟨he, hrest⟩

/-! ### One merged object -/

/-- The members of a merged object.  A key of `last` that is no longer desired is withdrawn. -/
structure MembersMerged (observed last desired merged : List (String × Document)) : Prop where
  /-- The keys are the desired ones, and those observed ones that are not withdrawn. -/
  keys : ∀ k, k ∈ merged.map (·.1) ↔ k ∈ desired.map (·.1) ∨
    k ∈ observed.map (·.1) ∧ ¬ (k ∈ last.map (·.1) ∧ k ∉ desired.map (·.1))
  /-- An observed value that is neither desired nor withdrawn stays as it is. -/
  kept : ∀ k v, Entries.get? k observed = some v → k ∉ desired.map (·.1) →
    k ∉ last.map (·.1) → Entries.get? k merged = some v
  /-- A desired value stands as it is, unless it is an object and meets another one. -/
  replaced : ∀ k v, Entries.get? k desired = some v →
    v.kind ≠ .object ∨ (∀ o, Entries.get? k observed = some o → o.kind ≠ .object) →
      Entries.get? k merged = some v

section Members

variable {observed last desired merged : List (String × Document)} {k : String}

/-- A member that is not desired was observed, and it is not withdrawn. -/
theorem MembersMerged.get?_of_not_desired (h : MembersMerged observed last desired merged)
    (hk : Entries.get? k desired = none) :
    Entries.get? k merged =
      if (Entries.get? k last).isSome then none else Entries.get? k observed := by
  rw [Entries.get?_eq_none_iff] at hk
  split
  · next hlast =>
    rw [Entries.get?_eq_none_iff, h.keys]
    rintro (hdesired | ⟨-, hkept⟩)
    · exact hk hdesired
    · exact hkept ⟨Entries.isSome_get?_iff.mp hlast, hk⟩
  · next hlast =>
    rw [Entries.isSome_get?_iff] at hlast
    cases hobserved : Entries.get? k observed with
    | some v => exact h.kept k v hobserved hk hlast
    | none =>
      rw [Entries.get?_eq_none_iff] at hobserved ⊢
      rw [h.keys]
      rintro (hdesired | ⟨hmem, -⟩)
      · exact hk hdesired
      · exact hobserved hmem

/-- A desired key has a value. -/
theorem MembersMerged.exists_get?_of_desired (h : MembersMerged observed last desired merged)
    {d : Document} (hk : Entries.get? k desired = some d) :
    ∃ m, Entries.get? k merged = some m := by
  have hdesired : k ∈ desired.map (·.1) := Entries.isSome_get?_iff.mp (hk ▸ rfl)
  exact Option.isSome_iff_exists.mp (Entries.isSome_get?_iff.mpr ((h.keys k).mpr (.inl hdesired)))

/-- Without two objects there is nothing to merge, and the desired document stays. -/
theorem merge_eq_right {o d : Document} (h : d.kind ≠ .object ∨ o.kind ≠ .object)
    (l : Document) : merge o l d = d := by
  rcases merge_eq_or o l d with ⟨observed, desired, rfl, rfl⟩ | heq
  · simp [kind] at h
  · exact heq

/-- The members of two merged objects are those of a merged object. -/
theorem membersMerged_mergedMembers (observed : List (String × Document)) (l : Document)
    (desired : List (String × Document)) :
    MembersMerged observed (l.members?.getD []) desired (mergedMembers observed l desired) := by
  constructor
  · -- The three conditions in their order: the keys, what is kept and what is desired.
    intro k
    simp only [← Entries.isSome_get?_iff, get?_members?, get?_mergedMembers]
    cases Entries.get? k desired with
    | some d => simp
    | none => cases l.member? k <;> simp
  · intro k v hv hdesired hlast
    rw [← Entries.get?_eq_none_iff] at hdesired hlast
    rw [get?_members?] at hlast
    rw [get?_mergedMembers, hdesired, hlast]
    exact hv
  · intro k v hv hother
    rw [get?_mergedMembers, hv]
    cases ho : Entries.get? k observed with
    | none => rfl
    | some o => exact congrArg some (merge_eq_right (hother.imp_right fun h => h o ho) _)

/-- Two sorted objects are merged into the sorted object with the same lookups. -/
theorem merge_obj_eq {l : Document} (ho : (obj observed).WellFormed)
    (hd : (obj desired).WellFormed) (hm : (obj merged).WellFormed)
    (h : ∀ k, Entries.get? k (mergedMembers observed l desired) = Entries.get? k merged) :
    merge (obj observed) l (obj desired) = obj merged := by
  have hsorted := wellFormed_merge (obj observed) l (obj desired) ho hd
  rw [merge_obj] at hsorted ⊢
  exact congrArg obj (Entries.ext hsorted.1 hm.1 h)

end Members

/-! ### All paths -/

/-- The document `m` is merged from the others at every path at which the observed and the
    desired one hold objects.  Where the last applied one holds none, nothing is withdrawn. -/
def MergedAtPaths (o l d m : Document) : Prop :=
  ∀ path observed desired, o.membersAt path = some observed → d.membersAt path = some desired →
    ∃ merged, m.membersAt path = some merged ∧
      MembersMerged observed ((l.membersAt path).getD []) desired merged

/-- A merge is merged at every path. -/
theorem mergedAtPaths_merge (o l d : Document) : MergedAtPaths o l d (merge o l d) := by
  intro path
  -- A path leads on through both objects, hence through the merge of their values.
  induction path generalizing o l d with
  | nil =>
    intro observed desired ho hd
    obtain rfl := eq_obj_of_members? ho
    obtain rfl := eq_obj_of_members? hd
    rw [merge_obj]
    exact ⟨_, rfl, membersMerged_mergedMembers observed l desired⟩
  | cons k path ih =>
    intro observed desired ho hd
    rw [membersAt, Option.bind_eq_some_iff] at ho hd
    obtain ⟨o', hok, ho⟩ := ho
    obtain ⟨d', hdk, hd⟩ := hd
    obtain ⟨merged, hmerged, h⟩ := ih o' ((l.member? k).getD null) d' observed desired ho hd
    rw [membersAt_getD_null] at h
    refine ⟨merged, ?_, h⟩
    cases o with
    | obj os =>
      cases d with
      | obj ds =>
        rw [member?] at hok hdk
        rw [merge_obj, membersAt, member?, get?_mergedMembers, hdk, hok]
        exact hmerged
      | _ => cases hdk
    | _ => cases hok

/-- What is merged at every path has values that are merged at every path. -/
theorem MergedAtPaths.member {o l d m o' d' m' : Document} {k : String}
    (h : MergedAtPaths o l d m) (ho : o.member? k = some o') (hd : d.member? k = some d')
    (hm : m.member? k = some m') : MergedAtPaths o' ((l.member? k).getD null) d' m' := by
  intro path observed desired hobserved hdesired
  have hpath := h (k :: path) observed desired
  simp only [membersAt, ho, hd, hm, Option.bind_some] at hpath
  rw [membersAt_getD_null]
  exact hpath hobserved hdesired

/-- Only the merge of two objects is merged from them at every path. -/
theorem eq_merge_of_mergedAtPaths {o l d m : Document} (ho : o.WellFormed) (hd : d.WellFormed)
    (hm : m.WellFormed) (hobjects : o.kind = .object ∧ d.kind = .object)
    (h : MergedAtPaths o l d m) : m = merge o l d := by
  -- On the desired document.  The objects are compared by their lookups, and where two
  -- objects meet under a key, their merge is the value of `m` by the induction hypothesis.
  induction d using member_induction generalizing o l m with
  | other d hother => exact absurd hobjects.2 hother
  | obj desired ih =>
    obtain ⟨observed, rfl⟩ := kind_eq_object_iff.mp hobjects.1
    obtain ⟨merged, hmerged, hmembers⟩ := h [] observed desired rfl rfl
    obtain rfl := eq_obj_of_members? hmerged
    rw [membersAt] at hmembers
    refine (merge_obj_eq ho hd hm fun k => ?_).symm
    rw [get?_mergedMembers]
    cases hdk : Entries.get? k desired with
    | none => rw [hmembers.get?_of_not_desired hdk, get?_members?]
    | some d' =>
      cases hok : Entries.get? k observed with
      | none => exact (hmembers.replaced k d' hdk (.inr (by simp [hok]))).symm
      | some o' =>
        dsimp only
        by_cases hother : d'.kind ≠ .object ∨ o'.kind ≠ .object
        · rw [merge_eq_right hother]
          refine (hmembers.replaced k d' hdk (hother.imp_right fun ho' o ho => ?_)).symm
          rwa [← Option.some.inj (hok.symm.trans ho)]
        · have hobjects' : o'.kind = .object ∧ d'.kind = .object := by
            simpa [and_comm] using hother
          obtain ⟨m', hmk⟩ := hmembers.exists_get?_of_desired hdk
          have hmember : MergedAtPaths o' ((l.member? k).getD null) d' m' := h.member hok hdk hmk
          rw [hmk, ih k d' hdk (ho.2.get? hok) (hd.2.get? hdk) (hm.2.get? hmk) hobjects' hmember]

end Reconciler.Document
