import Reconciler.Proofs.Document.Difference
import Reconciler.Proofs.Document.Pointwise

namespace Reconciler

/-!
# What a comparison tells

The summary of the difference of two documents is empty only where there is no difference, and it
takes neither of them for the better one: seen from the other side, what was added has been
removed.

* `DiffSummary.reverse` — a summary seen from the other side;
* `Document.comparison_induction` — induction on the members that both documents have;
* `Document.compareTo_eq_zero`, `Document.compareTo_comm` — both facts, for the documents that
  are compared;
* `Document.without`, `Document.stripServerFields_eq` — the members that are left aside, one by
  one;
* `Document.diff_faithful` — the summary of two documents.
-/

namespace DiffSummary

/-- The summary of a difference seen from the other side. -/
def reverse (s : DiffSummary) : DiffSummary := ⟨s.removes, s.updates, s.adds⟩

/-- The other side of a sum is the sum of the other sides. -/
def reverseHom : DiffSummary →+ DiffSummary := ⟨⟨reverse, rfl⟩, fun _ _ => rfl⟩

/-- A summary is empty when it counts nothing. -/
theorem isEmpty_iff {s : DiffSummary} : s.isEmpty = true ↔ s = 0 := by
  rw [eq_zero_iff, isEmpty, places]
  simp only [Bool.and_eq_true, beq_iff_eq]
  omega

section Sum

variable {K : Finset String} {f : String → DiffSummary}

/-- A sum is seen from the other side summand by summand. -/
theorem reverse_sum : (∑ k ∈ K, f k).reverse = ∑ k ∈ K, (f k).reverse := map_sum reverseHom f K

/-- No count of a sum takes back another one. -/
theorem sum_eq_zero_iff : ∑ k ∈ K, f k = 0 ↔ ∀ k ∈ K, f k = 0 := by
  simp only [eq_zero_iff, places_sum, Finset.sum_eq_zero_iff]

end Sum

end DiffSummary

namespace Document

variable {a b : Document} {bs xs : List (String × Document)}

/-! ### One member -/

/-- A member counts for nothing when it is the same on both sides, or on neither. -/
theorem memberDiff_eq_zero {o o' : Option Document}
    (h : ∀ x ∈ o, ∀ b ∈ o', compareTo b x = 0 ↔ x.same b = true) :
    memberDiff o' o = 0 ↔ Option.Rel (fun x b => same x b = true) o o' := by
  cases o with
  | none => cases o' <;> simp [memberDiff, DiffSummary.eq_zero_iff, DiffSummary.places]
  | some x =>
    cases o' with
    | none => simp [memberDiff, DiffSummary.eq_zero_iff, DiffSummary.places]
    | some b =>
      rw [memberDiff, Option.rel_some_some]
      have hxb := h x rfl b rfl
      by_cases hsame : x.same b = true <;> simp [hsame, hxb]

/-- Members that may be missing are compared symmetrically when the documents are. -/
theorem memberDiff_comm {o o' : Option Document}
    (h : ∀ x ∈ o, ∀ b ∈ o', compareTo x b = (compareTo b x).reverse) :
    memberDiff o o' = (memberDiff o' o).reverse := by
  cases o with
  | none => cases o' <;> rfl
  | some x =>
    cases o' with
    | none => rfl
    | some b =>
      rw [memberDiff, memberDiff, same_comm b x, h x rfl b rfl]
      split <;> rfl

/-! ### Two documents -/

/-- Beside two lists or two objects, documents that are not the same are one change. -/
theorem compareTo_of_kind (h : a.kind = b.kind → a.kind ≠ .object ∧ a.kind ≠ .array) :
    compareTo b a = ⟨0, if a.same b then 0 else 1, 0⟩ := by
  cases a <;> cases b <;> simp_all [compareTo, same, kind]

/-- Scalars, and documents of different kinds, count as equal when they are the same. -/
theorem compareTo_eq_zero_of_kind (h : a.kind = b.kind → a.kind ≠ .object ∧ a.kind ≠ .array) :
    compareTo b a = 0 ↔ a.same b = true := by
  rw [compareTo_of_kind h, DiffSummary.eq_zero_iff]
  by_cases hsame : a.same b = true <;> simp [hsame, DiffSummary.places]

/-- From the other side their one difference is the same one. -/
theorem compareTo_comm_of_kind (h : a.kind = b.kind → a.kind ≠ .object ∧ a.kind ≠ .array) :
    compareTo a b = (compareTo b a).reverse := by
  have hflip : b.kind = a.kind → b.kind ≠ .object ∧ b.kind ≠ .array := fun heq => by
    rw [heq]
    exact h heq.symm
  rw [compareTo_of_kind h, compareTo_of_kind hflip, same_comm b a]
  rfl

/-- Lists differ nowhere when they have the same items. -/
theorem compareTo_arr_eq_zero {ys zs : List Document} :
    compareTo (arr ys) (arr zs) = 0 ↔ (arr zs).same (arr ys) = true := by
  have hsame : (arr zs).same (arr ys) = sameItems zs ys := rfl
  rw [hsame, sameItems_iff, List.forall₂_iff_zip, DiffSummary.eq_zero_iff]
  -- Lists differ in nothing when they are of one length and equal at every position.
  have hplaces : (compareTo (arr ys) (arr zs)).places =
      zs.length - ys.length + ((zs.zip ys).countP fun e => !same e.1 e.2) +
        (ys.length - zs.length) := rfl
  have hparts : (compareTo (arr ys) (arr zs)).places = 0 ↔
      zs.length = ys.length ∧ ((zs.zip ys).countP fun e => !same e.1 e.2) = 0 := by
    omega
  rw [hparts, List.countP_eq_zero]
  simp

/-- Arrays are compared as wholes, and so from either side alike. -/
theorem compareTo_arr_comm (ys zs : List Document) :
    compareTo (arr ys) (arr zs) = (compareTo (arr zs) (arr ys)).reverse := by
  have hcount : ((zs.zip ys).countP fun e => !same e.1 e.2) =
      (ys.zip zs).countP fun e => !same e.1 e.2 := by
    rw [← List.zip_swap, List.countP_map]
    exact List.countP_congr fun e _ => by simp [same_comm e.1 e.2]
  rw [compareTo, compareTo, hcount]
  rfl

/-- Induction on a comparison: two lists, two objects, or documents that are not looked into. -/
@[elab_as_elim]
theorem comparison_induction {motive : Document → Document → Prop}
    (lists : ∀ ys zs, motive (arr ys) (arr zs))
    (objects : ∀ bs xs, (∀ k b x, Entries.get? k bs = some b → Entries.get? k xs = some x →
      motive b x) → motive (obj bs) (obj xs))
    (others : ∀ b a, (a.kind = b.kind → a.kind ≠ .object ∧ a.kind ≠ .array) → motive b a)
    (b a : Document) : motive b a := by
  induction a using member_induction generalizing b with
  | other a hkind =>
    -- Every pair that is not of two lists or of two objects is of different kinds or has no parts.
    cases a with
    | obj xs => exact absurd rfl hkind
    | arr zs =>
      cases b with
      | arr ys => exact lists ys zs
      | _ => exact others _ _ (by simp [kind])
    | _ => exact others _ _ (by simp [kind])
  | obj xs ih =>
    cases b with
    | obj bs => exact objects bs xs fun k b x _ hx => ih k x hx b
    | _ => exact others _ _ (by simp [kind])

/-- A comparison counts nothing only where it compares a document with the same one. -/
theorem compareTo_eq_zero (hb : b.WellFormed) (ha : a.WellFormed) :
    compareTo b a = 0 ↔ a.same b = true := by
  induction b, a using comparison_induction with
  | lists ys zs => exact compareTo_arr_eq_zero
  | objects bs xs ih =>
    obtain ⟨K, hK⟩ := exists_keys (bs ++ xs)
    obtain ⟨hKbs, hKxs⟩ := List.forall_mem_append.mp hK
    have hsame : (obj xs).same (obj bs) = sameMembers xs bs := rfl
    have hmember : ∀ k, memberDiff (Entries.get? k bs) (Entries.get? k xs) = 0 ↔
        Option.Rel (fun x b => same x b = true) (Entries.get? k xs) (Entries.get? k bs) :=
      fun k => memberDiff_eq_zero fun x hx b hb' => ih k b x hb' hx (hb.2.get? hb') (ha.2.get? hx)
    rw [compareTo_obj hb.1 ha.1 hKbs hKxs, DiffSummary.sum_eq_zero_iff, hsame,
      sameMembers_iff_get? hb.1 ha.1]
    refine ⟨fun h k => ?_, fun h k _ => (hmember k).mpr (h k)⟩
    by_cases hk : k ∈ K
    · exact (hmember k).mp (h k hk)
    · -- Neither object has a member under any other key.
      rw [get?_eq_none_of_keys hKxs hk, get?_eq_none_of_keys hKbs hk]
      exact .none
  | others b a hkinds => exact compareTo_eq_zero_of_kind hkinds

/-- The comparison the other way round. -/
theorem compareTo_comm (hb : b.WellFormed) (ha : a.WellFormed) :
    compareTo a b = (compareTo b a).reverse := by
  induction b, a using comparison_induction with
  | lists ys zs => exact compareTo_arr_comm zs ys
  | objects bs xs ih =>
    -- Both differences are sums over one set of keys, and each key counts the other way round.
    obtain ⟨K, hK⟩ := exists_keys (bs ++ xs)
    obtain ⟨hKbs, hKxs⟩ := List.forall_mem_append.mp hK
    rw [compareTo_obj hb.1 ha.1 hKbs hKxs, compareTo_obj ha.1 hb.1 hKxs hKbs,
      DiffSummary.reverse_sum]
    exact Finset.sum_congr rfl fun k _ =>
      memberDiff_comm fun x hx b hb' => ih k b x hb' hx (hb.2.get? hb') (ha.2.get? hx)
  | others b a hkinds => exact compareTo_comm_of_kind hkinds

/-! ### The members of the server -/

/-- The document without the member `k` of the object that the path leads to. -/
def without (k : String) : List String → Document → Document
  | [], obj members => obj (Entries.erase k members)
  | step :: path, obj members =>
    obj (members.map fun e => (e.1, if e.1 = step then without k path e.2 else e.2))
  | _, d => d

/-- The members that a comparison leaves aside, each with the object that it belongs to. -/
def serverPlaces : List (List String × String) :=
  [([], "status"), (["metadata"], "managedFields"), (["metadata"], "resourceVersion"),
    (["metadata"], "generation"), (["metadata"], "creationTimestamp")]

/-- The document without any of these members. -/
def withoutServerMembers (d : Document) : Document :=
  serverPlaces.foldl (fun d place => d.without place.2 place.1) d

/-- Without a member a document stays well formed. -/
theorem wellFormed_without (k : String) (path : List String) (ha : a.WellFormed) :
    (a.without k path).WellFormed := by
  induction path generalizing a with
  | nil =>
    cases a with
    | obj members =>
      refine ⟨ha.1.erase k, membersWellFormed_iff.mpr fun e he => ?_⟩
      exact membersWellFormed_iff.mp ha.2 e (List.mem_filter.mp he).1
    | _ => exact ha
  | cons step path ih =>
    cases a with
    | obj members =>
      refine ⟨ha.1.map_values fun k' d => if k' = step then without k path d else d,
        membersWellFormed_iff.mpr fun e he => ?_⟩
      obtain ⟨e, hmem, rfl⟩ := List.mem_map.mp he
      have hvalue := membersWellFormed_iff.mp ha.2 e hmem
      -- Only the member on the path is changed.
      by_cases hstep : e.1 = step
      · simpa [hstep] using ih hvalue
      · simpa [hstep] using hvalue
    | _ => exact ha

/-- Without the members of a server it does, too. -/
theorem wellFormed_withoutServerMembers (ha : a.WellFormed) :
    a.withoutServerMembers.WellFormed :=
  List.foldlRecOn serverPlaces _ ha fun _ hd place _ => wellFormed_without place.2 place.1 hd

/-- The members of the server are left aside all at once. -/
theorem stripServerFields_eq (d : Document) : d.stripServerFields = d.withoutServerMembers := by
  cases d with
  | obj members =>
    rw [stripServerFields_obj, strippedMembers]
    simp only [withoutServerMembers, serverPlaces, List.foldl_cons, List.foldl_nil, without,
      List.map_map]
    refine congrArg obj (List.map_congr_left fun e _ => ?_)
    obtain ⟨k, d⟩ := e
    -- Both leave every member alone but the metadata.
    by_cases hk : k = "metadata"
    · subst hk
      cases d with
      | obj metadata =>
        simp only [stripMember, serverMetadata, Function.comp_apply, if_true, without,
          Entries.erase, List.filter_filter]
        -- Members erased one after the other are erased together.
        refine congrArg (fun kept => ("metadata", obj kept)) (List.filter_congr fun e _ => ?_)
        simp only [List.contains_eq_mem, List.mem_cons, List.not_mem_nil, or_false]
        grind
      | _ => simp [stripMember, without]
    · simp [stripMember, hk]
  | _ => rfl

/-- The summary of a difference is empty just when the documents are the same beside the members of
    the server.  The other way round, additions and removals change places, and the rest stays. -/
theorem diff_faithful {target base : Document} (ht : target.WellFormed) (hb : base.WellFormed) :
    ((diff target base).isEmpty = true ↔
        target.withoutServerMembers.same base.withoutServerMembers = true) ∧
      diff base target =
        ⟨(diff target base).removes, (diff target base).updates, (diff target base).adds⟩ := by
  have ht' := wellFormed_withoutServerMembers ht
  have hb' := wellFormed_withoutServerMembers hb
  rw [diff, diff, stripServerFields_eq, stripServerFields_eq]
  exact ⟨DiffSummary.isEmpty_iff.trans (compareTo_eq_zero hb' ht'), compareTo_comm hb' ht'⟩

end Document

namespace WeightedService

/-- A service as it was observed, with a status and a version of the server. -/
def observed : Document :=
  .obj [("metadata", .obj [("name", .str "web"), ("resourceVersion", .str "1")]),
    ("spec", .obj [("ports", .arr [.nat 80, .nat 443]), ("weight", .num (.float ⟨0⟩))]),
    ("status", .obj [("ready", .bool true)])]

/-- The service after the server has touched it; its weight is the other zero. -/
def touched : Document :=
  .obj [("metadata", .obj [("generation", .nat 2), ("name", .str "web"),
      ("resourceVersion", .str "2")]),
    ("spec", .obj [("ports", .arr [.nat 80, .nat 443]),
      ("weight", .num (.float ⟨0x8000000000000000⟩))])]

/-- The service with a label, on one port, and paused. -/
def paused : Document :=
  .obj [("metadata", .obj [("labels", .obj [("app", .str "web")]), ("name", .str "web")]),
    ("spec", .obj [("paused", .bool true), ("ports", .arr [.nat 8080]),
      ("weight", .num (.float ⟨0⟩))])]

end WeightedService

open WeightedService in
/-- What the server does is no difference.  Seen from the paused service, two members are missing
    from the observed one, and a port has been added to it. -/
theorem Document.diff_faithful_service :
    observed.WellFormed ∧ touched.WellFormed ∧ paused.WellFormed ∧
      (touched.withoutServerMembers.same observed.withoutServerMembers = true ∧
        (touched.diff observed).isEmpty = true) ∧
      paused.diff observed = ⟨2, 1, 1⟩ ∧ observed.diff paused = ⟨1, 1, 2⟩ := by
  have hobserved : observed.WellFormed := by decide +kernel
  have htouched : touched.WellFormed := by decide +kernel
  have hpaused : paused.WellFormed := by decide +kernel
  have hsame : touched.withoutServerMembers.same observed.withoutServerMembers = true := by
    decide +kernel
  have hdiff : paused.diff observed = ⟨2, 1, 1⟩ := by decide +kernel
  obtain ⟨hempty, -⟩ := Document.diff_faithful htouched hobserved
  obtain ⟨-, hreverse⟩ := Document.diff_faithful hpaused hobserved
  rw [hdiff] at hreverse
  exact ⟨hobserved, htouched, hpaused, ⟨hsame, hempty.mpr hsame⟩, hdiff, hreverse⟩

end Reconciler
