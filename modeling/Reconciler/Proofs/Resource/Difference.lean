import Reconciler.Proofs.Document.Difference
import Reconciler.Proofs.Resource.Settling

namespace Reconciler

open Wire
open Document (patched memberDiff serverMetadata stripMember)

/-!
# What is kept of patched metadata

The metadata that a patch makes is read, and what is written of it need not be what the patch
has made: members that are not known or null are left out, and others may be written in another
form.  What is kept never differs more from the metadata before than what was made of it.

* `Wire.Reports` — a value whose written form differs no more than what it was read from;
* `reports_string`, `reports_timestamp`, `reports_list` and others — the values of metadata;
* `Wire.Reports.within_member` — a member that may be missing or null;
* `Metadata.within_member` — one member of metadata;
* `Metadata.Keeps`, `Metadata.within_kept` — all of them.
-/

namespace Wire

variable {α : Type} {value : Decoder α} {encode : α → Document} {p : Option Document}

/-- What is written of a value that was read after a patch differs from what was there before no
    more than what the patch has made of it. -/
def Reports (p : Option Document) (value : Decoder α) (encode : α → Document) : Prop :=
  ∀ (before : Option α) (y : α) (d : Document), patched (before.map encode) p = some d →
    value d = .ok y →
      (memberDiff (before.map encode) (some (encode y))).Within
        (memberDiff (before.map encode) (some d))

/-! ### Values of one piece -/

/-- What is read from its own written form alone. -/
theorem reports_of_eq (h : ∀ d y, value d = .ok y → d = encode y) : Reports p value encode := by
  intro before y d _ hy
  rw [h d y hy]
  exact DiffSummary.within_refl _

/-- A text has one written form. -/
theorem reports_string : Reports p string .str :=
  reports_of_eq fun _ _ => string_eq_ok.mp

/-- A number has one written form within its bounds, and beyond them it does not read. -/
theorem reports_int64 : Reports p int64 (.int ·.toInt) := by
  refine reports_of_eq fun d y hy => ?_
  obtain ⟨n, hn, rfl⟩ := map_eq_ok.mp hy
  cases d with
  | num number =>
    cases number with
    | int m =>
      rw [integer] at hn
      split_ifs at hn with hbounds
      obtain rfl := Except.ok.inj hn
      -- Within the bounds no digit is lost.
      have hlower : -2 ^ 63 ≤ m := by omega
      have hupper : m < 2 ^ 63 := by omega
      rw [Int64.toInt_ofInt_of_le hlower hupper]
      rfl
    | _ => cases hn
  | _ => cases hn

/-- A timestamp that is written already in its own form is read and written as it is. -/
theorem reports_timestamp : Reports p timestamp encodeTimestamp := by
  intro before y d _ hy
  cases d with
  | str s =>
    cases before with
    | none => exact DiffSummary.within_refl _
    | some t =>
      have hcases : (if y.text = t.text then (0 : DiffSummary) else ⟨0, 1, 0⟩).Within
          (if s = t.text then 0 else ⟨0, 1, 0⟩) := by
        by_cases hs : s = t.text
        · -- The text before was read, and so it is that of a whole second.
          subst hs
          obtain rfl := ok_unique hy (timestamp_encodeTimestamp t)
          have htext : Timestamp.text { t with nanosecond := 0 } = t.text := rfl
          rw [if_pos htext, if_pos rfl]
          exact DiffSummary.within_refl 0
        · rw [if_neg hs]
          split
          · exact ⟨le_refl _, Nat.zero_le _, le_refl _, Nat.zero_le _⟩
          · exact DiffSummary.within_refl _
      rw [← Document.memberDiff_str, ← Document.memberDiff_str] at hcases
      exact hcases
  | _ => cases hy

/-! ### Collections -/

/-- A table of texts that reads after a patch is written as the patch has made it. -/
theorem reports_stringTable (hp : ∀ q ∈ p, q.WellFormed) : Reports p stringTable ofTable := by
  intro before y d hd hy
  rw [eq_ofTable_of_patched hp hd hy]
  exact DiffSummary.within_refl _

/-- Items that are the same as written ones are written the same, so no more positions differ
    than did before the list was read. -/
theorem countP_zip_le {items : List Document} {ys : List α} (bs : List α)
    (hitem : ∀ d y b, value d = .ok y → d.same (encode b) = true →
      (encode y).same (encode b) = true)
    (hys : List.Forall₂ (fun d y => value d = .ok y) items ys) :
    (((ys.map encode).zip (bs.map encode)).countP fun e => !e.1.same e.2) ≤
      (items.zip (bs.map encode)).countP fun e => !e.1.same e.2 := by
  induction hys generalizing bs with
  | nil => exact Nat.le_refl _
  | @cons d y items ys hy _ ih =>
    cases bs with
    | nil => exact Nat.le_refl _
    | cons b bs =>
      have hrest := ih bs
      simp only [List.map_cons, List.zip_cons_cons, List.countP_cons]
      -- If the first item differs as it is written, it has differed as it was read.
      have hfirst : (!(encode y).same (encode b)) = true → (!d.same (encode b)) = true := by
        intro hne
        rw [Bool.not_eq_true', Bool.eq_false_iff] at hne ⊢
        exact fun hsame => hne (hitem d y b hy hsame)
      by_cases hne : (!(encode y).same (encode b)) = true
      · rw [if_pos hne, if_pos (hfirst hne)]
        omega
      · rw [if_neg hne]
        omega

/-- A list counts once when it differs, so it is enough that items equal to what was there before
    are written as equal to it. -/
theorem reports_list
    (hitem : ∀ d y b, value d = .ok y → d.same (encode b) = true →
      (encode y).same (encode b) = true) :
    Reports p (list value) fun xs => .arr (xs.map encode) := by
  intro before ys d _ hread
  obtain ⟨items, rfl, hys⟩ := list_eq_ok.mp hread
  cases before with
  | none => exact DiffSummary.within_refl _
  | some bs =>
    -- The list is as long as it was read, so only equal positions count.
    have hlength : items.length = ys.length := hys.length_eq
    have hcount := countP_zip_le bs hitem hys
    rw [Option.map_some, Document.memberDiff_arr, Document.memberDiff_arr, List.length_map,
      List.length_map, hlength]
    refine ⟨le_refl _, hcount, le_refl _, ?_⟩
    simp only [DiffSummary.places]
    omega

/-! ### Members -/

/-- A member that is missing or null after the patch is not written at all. -/
theorem Reports.within_member {name : String} {members : List (String × Document)}
    {before y : Option α} (h : Reports p value encode) (hnull : ∀ x, (encode x).isNull = false)
    (hget : Entries.get? name members = patched (before.map encode) p)
    (hread : (omittable name value).Reads members y) :
    (memberDiff (before.map encode) (y.map encode)).Within
      (memberDiff (before.map encode) (Entries.get? name members)) := by
  rcases Fields.reads_omittable.mp hread with ⟨hmissing, rfl⟩ | ⟨d, hd, -, y, hy, rfl⟩
  · cases hd : Entries.get? name members with
    | none => exact DiffSummary.within_refl _
    | some d =>
      rw [hd, Option.all_some] at hmissing
      have hnullDocument : d = .null := by
        cases d <;> simp_all [Document.isNull]
      subst hnullDocument
      -- A null is a change, or an addition, of what is no longer there in the end.
      cases before with
      | none => exact ⟨Nat.zero_le _, le_refl _, le_refl _, Nat.zero_le _⟩
      | some x =>
        rw [Option.map_some, Document.memberDiff_null (hnull x)]
        exact ⟨le_refl _, Nat.zero_le _, Nat.zero_le _, le_refl _⟩
  · rw [hd]
    exact h before y d (hget ▸ hd) hy

end Wire

/-! ### Owners -/

/-- An owner is the same as no other document than its written form. -/
theorem OwnerReference.eq_encode_of_same {d : Document} {o : OwnerReference}
    (h : d.same o.encode = true) : d = o.encode := by
  cases d with
  | obj members =>
    refine congrArg Document.obj (Document.eq_of_sameMembers ?_ h)
    -- The members are texts and truth values.
    intro e he y hsame
    obtain ⟨⟨k, part⟩, hpart, he⟩ := List.mem_filterMap.mp he
    obtain ⟨x, hx, rfl⟩ := Option.map_eq_some_iff.mp he
    simp only [List.mem_cons, Prod.mk.injEq, List.not_mem_nil, or_false] at hpart
    obtain ⟨-, rfl⟩ | ⟨-, rfl⟩ | ⟨-, rfl⟩ | ⟨-, rfl⟩ | ⟨-, rfl⟩ | ⟨-, rfl⟩ := hpart
    · obtain rfl := Option.some.inj hx
      exact Document.same_str.mp hsame
    · obtain ⟨b, -, rfl⟩ := Option.map_eq_some_iff.mp hx
      exact Document.same_bool.mp hsame
    · obtain ⟨b, -, rfl⟩ := Option.map_eq_some_iff.mp hx
      exact Document.same_bool.mp hsame
    · obtain rfl := Option.some.inj hx
      exact Document.same_str.mp hsame
    · obtain rfl := Option.some.inj hx
      exact Document.same_str.mp hsame
    · obtain rfl := Option.some.inj hx
      exact Document.same_str.mp hsame
  | _ => cases h

/-- An owner reference that is read from a document equal to a written one is written as equal to
    it. -/
theorem OwnerReference.same_encode {d : Document} {y o : OwnerReference}
    (hy : OwnerReference.decode d = .ok y) (h : d.same o.encode = true) :
    y.encode.same o.encode = true := by
  obtain rfl := eq_encode_of_same h
  obtain rfl := ok_unique hy (decode_encode o)
  exact Document.same_self _

/-! ### Metadata -/

namespace Wire

/-- Parts in the order of their names are written in this order. -/
theorem sorted_ofParts {parts : List (String × Option Document)} (h : Entries.Sorted parts) :
    Entries.Sorted (parts.filterMap fun (k, part) => part.map (k, ·)) := by
  refine List.pairwise_filterMap.mpr (h.imp ?_)
  rintro ⟨k, part⟩ ⟨k', part'⟩ hlt e he e' he'
  obtain ⟨_, -, rfl⟩ := Option.map_eq_some_iff.mp he
  obtain ⟨_, -, rfl⟩ := Option.map_eq_some_iff.mp he'
  exact hlt

end Wire

namespace Document

/-- A patched object is sorted when the object and the patch are. -/
theorem sorted_of_patched {o p : Option Document} {members : List (String × Document)}
    (ho : ∀ xs, o = some (obj xs) → Entries.Sorted xs) (hp : ∀ q ∈ p, q.WellFormed)
    (h : patched o p = some (obj members)) : Entries.Sorted members := by
  cases p with
  | none => exact ho members h
  | some q =>
    obtain ⟨ps, rfl⟩ := kind_eq_object_iff.mp (kind_of_patched h).symm
    have hps : Entries.Sorted ps := (hp _ rfl).1
    cases o with
    | none =>
      obtain rfl := obj.inj (Option.some.inj h)
      exact hps
    | some x =>
      -- Two objects are merged, and otherwise the patch takes the place of the value.
      rcases merge_eq_or x (obj ps) (obj ps) with ⟨xs, ps', rfl, hps'⟩ | heq
      · obtain rfl := obj.inj hps'
        rw [patched, merge_obj] at h
        rw [← obj.inj (Option.some.inj h)]
        exact sorted_patch (ho xs rfl) ps
      · rw [patched, heq] at h
        rw [← obj.inj (Option.some.inj h)]
        exact hps

end Document

namespace Metadata

variable {before u : Metadata} {members : List (String × Document)} {p : Option Document}

/-- Metadata is written part by part, in the order of the names. -/
theorem encode_eq_ofParts (m : Metadata) :
    m.encode = ofParts (parts.map fun part => (part.name, part.written m)) := rfl

/-- Metadata is written as an object, with its members in the order of their names. -/
theorem sorted_encode (m : Metadata) : ∃ xs, m.encode = .obj xs ∧ Entries.Sorted xs := by
  have hnames : (parts.map (·.name)).Pairwise fun k k' => compare k k' = .lt := by decide +kernel
  have hparts : Entries.Sorted (parts.map fun part => (part.name, part.written m)) :=
    List.pairwise_map.mpr (List.pairwise_map.mp hnames)
  exact ⟨_, encode_eq_ofParts m, sorted_ofParts hparts⟩

/-- The name of a part finds what is written of this part. -/
theorem member?_encode_of_part (m : Metadata) {part : RecordPart Metadata} (hpart : part ∈ parts) :
    m.encode.member? part.name = part.written m := by
  obtain ⟨xs, hxs, hparts⟩ := get?_encode m
  rw [hxs]
  exact hparts part hpart

/-- Metadata is written under the names of its parts alone. -/
theorem member?_encode_of_not_part (m : Metadata) {k : String}
    (hk : ∀ part ∈ parts, part.name ≠ k) : m.encode.member? k = none := by
  rw [encode_eq_ofParts, ofParts, Document.member?, Entries.get?_eq_none_iff]
  intro hmem
  obtain ⟨e, he, rfl⟩ := List.mem_map.mp hmem
  obtain ⟨written, hwritten, he⟩ := List.mem_filterMap.mp he
  obtain ⟨part, hpart, rfl⟩ := List.mem_map.mp hwritten
  obtain ⟨d, -, rfl⟩ := Option.map_eq_some_iff.mp he
  exact hk part hpart rfl

/-- Every member is patched by itself. -/
theorem get?_of_patched (hpatched : patched (some before.encode) p = some (.obj members))
    (k : String) : Entries.get? k members =
      patched (before.encode.member? k) (p.bind (Document.member? k)) := by
  have hobject : ∀ x ∈ some before.encode, x.kind = .object := by
    intro x hx
    obtain rfl := Option.some.inj hx
    rfl
  exact Document.member?_patched hobject rfl hpatched k

/-- The values of the metadata that the server does not set. -/
theorem reports_parts (hp : ∀ q ∈ p, q.WellFormed) :
    ∀ part ∈ parts, serverMetadata.contains part.name = false →
      Reports (p.bind (Document.member? part.name)) part.value part.encode ∧
        ∀ x, (part.encode x).isNull = false := by
  have htable : ∀ k, Reports (p.bind (Document.member? k)) stringTable ofTable :=
    fun k => reports_stringTable (Document.wellFormed_bind_member? hp k)
  -- Lists of texts and of owner references, whose items are compared as values.
  have htexts : ∀ q, Reports q (list string) fun xs => .arr (xs.map .str) := by
    intro q
    refine reports_list fun d y b hy hsame => ?_
    rw [← string_eq_ok.mp hy]
    exact hsame
  have howners : ∀ q, Reports q (list OwnerReference.decode)
      fun xs => .arr (xs.map OwnerReference.encode) :=
    fun q => reports_list fun d y b hy hsame => OwnerReference.same_encode hy hsame
  simp only [parts, List.forall_mem_cons]
  refine ⟨?_, ?_, ?_, ?_, ?_, ?_, ?_, ?_, ?_, ?_, ?_, ?_, ?_, ?_, ?_,
    List.forall_mem_nil _⟩
  · exact fun _ => ⟨htable _, fun _ => rfl⟩
  · exact fun _ => ⟨reports_timestamp, fun _ => rfl⟩
  · exact fun _ => ⟨reports_int64, fun _ => rfl⟩
  · exact fun _ => ⟨reports_timestamp, fun _ => rfl⟩
  · exact fun _ => ⟨htexts _, fun _ => rfl⟩
  · exact fun _ => ⟨reports_string, fun _ => rfl⟩
  · exact fun _ => ⟨reports_int64, fun _ => rfl⟩
  · exact fun _ => ⟨htable _, fun _ => rfl⟩
  · -- Managed fields are members of the server.
    exact fun hserver => absurd hserver (by decide)
  · exact fun _ => ⟨reports_string, fun _ => rfl⟩
  · exact fun _ => ⟨reports_string, fun _ => rfl⟩
  · exact fun _ => ⟨howners _, fun _ => rfl⟩
  · exact fun _ => ⟨reports_string, fun _ => rfl⟩
  · exact fun _ => ⟨reports_string, fun _ => rfl⟩
  · exact fun _ => ⟨reports_string, fun _ => rfl⟩

/-- What is kept of a patched member differs no more than what the patch has made of it. -/
theorem within_member (hp : ∀ q ∈ p, q.WellFormed)
    (hpatched : patched (some before.encode) p = some (.obj members))
    (hu : Metadata.decode (.obj members) = .ok u) {k : String}
    (hk : serverMetadata.contains k = false) :
    (memberDiff (before.encode.member? k) (u.encode.member? k)).Within
      (memberDiff (before.encode.member? k) (Entries.get? k members)) := by
  by_cases hpart : ∃ part ∈ parts, part.name = k
  · obtain ⟨part, hmem, rfl⟩ := hpart
    obtain ⟨hreports, hnull⟩ := reports_parts hp part hmem hk
    obtain ⟨_, hmembers, hread⟩ := (decode_eq_ok_parts _ _).mp hu
    obtain rfl := Document.obj.inj hmembers
    have hget := get?_of_patched_parts get?_encode (r := some before) hpatched hmem
    rw [member?_encode_of_part _ hmem, member?_encode_of_part _ hmem]
    exact hreports.within_member hnull hget (hread part hmem)
  · -- A name that metadata does not know is not written, and what the patch has set there is
    -- lost.
    have hnone : ∀ m : Metadata, m.encode.member? k = none :=
      fun m => m.member?_encode_of_not_part fun part hmem hname => hpart ⟨part, hmem, hname⟩
    rw [hnone, hnone]
    cases Entries.get? k members with
    | none => exact DiffSummary.within_refl _
    | some d => exact ⟨Nat.zero_le _, le_refl _, le_refl _, Nat.zero_le _⟩

/-- Every member that the patch sets, those of the server aside, differs in the end as much as it
    did when it was set. -/
def Keeps (before : Metadata) (p : Option Document) (u : Metadata) : Prop :=
  ∀ k x, serverMetadata.contains k = false → p.bind (Document.member? k) = some x →
    memberDiff (before.encode.member? k) (patched (before.encode.member? k) (some x)) =
      memberDiff (before.encode.member? k) (u.encode.member? k)

/-- The members that the patch does not set are kept as they are. -/
theorem keeps_iff (hp : ∀ q ∈ p, q.WellFormed)
    (hpatched : patched (some before.encode) p = some (.obj members))
    (hu : Metadata.decode (.obj members) = .ok u) :
    before.Keeps p u ↔ ∀ k, serverMetadata.contains k = false →
      memberDiff (before.encode.member? k) (Entries.get? k members) =
        memberDiff (before.encode.member? k) (u.encode.member? k) := by
  have hget := get?_of_patched hpatched
  constructor
  · intro hkeeps k hk
    cases hx : p.bind (Document.member? k) with
    | some x =>
      rw [hget k, hx]
      exact hkeeps k x hk hx
    | none =>
      -- The patch says nothing of this member, so it differs in nothing before it is read, and in
      -- nothing after that.
      have hsame : Entries.get? k members = before.encode.member? k := by
        rw [hget k, hx]
        rfl
      have hwithin := within_member hp hpatched hu hk
      rw [hsame, Document.memberDiff_self] at hwithin ⊢
      exact hwithin.eq_zero.symm
  · intro h k x hk hx
    rw [← hx, ← hget k]
    exact h k hk

/-- Without the members of the server. -/
theorem get?_stripped (xs : List (String × Document)) (k : String) :
    Entries.get? k (xs.filter fun e => !serverMetadata.contains e.1) =
      if serverMetadata.contains k then none else Entries.get? k xs := by
  rw [Entries.get?_filter_key k fun k => !serverMetadata.contains k]
  cases serverMetadata.contains k <;> rfl

/-- What is kept of patched metadata differs no more from the metadata before than what the patch
    has made of it, and just as much when every member does. -/
theorem within_kept (hp : ∀ q ∈ p, q.WellFormed)
    (hpatched : patched (some before.encode) p = some (.obj members))
    (hu : Metadata.decode (.obj members) = .ok u) :
    (memberDiff (some (stripMember "metadata" before.encode))
        (some (stripMember "metadata" u.encode))).Within
      (memberDiff (some (stripMember "metadata" before.encode))
        (some (stripMember "metadata" (.obj members)))) ∧
    (memberDiff (some (stripMember "metadata" before.encode))
        (some (stripMember "metadata" (.obj members))) =
      memberDiff (some (stripMember "metadata" before.encode))
        (some (stripMember "metadata" u.encode)) ↔ before.Keeps p u) := by
  have hmember : ∀ k, serverMetadata.contains k = false →
      (memberDiff (before.encode.member? k) (u.encode.member? k)).Within
        (memberDiff (before.encode.member? k) (Entries.get? k members)) :=
    fun k => within_member hp hpatched hu
  rw [keeps_iff hp hpatched hu]
  obtain ⟨bs, hbs, hbsSorted⟩ := sorted_encode before
  obtain ⟨us, hus, husSorted⟩ := sorted_encode u
  have hmembers : Entries.Sorted members := by
    refine Document.sorted_of_patched (fun xs hxs => ?_) hp hpatched
    rw [hbs] at hxs
    rwa [← Document.obj.inj (Option.some.inj hxs)]
  rw [hbs, hus] at hmember ⊢
  -- Under a name of the server there is nothing to compare.
  have hstripped : ∀ k,
      (memberDiff (Entries.get? k (bs.filter fun e => !serverMetadata.contains e.1))
        (Entries.get? k (us.filter fun e => !serverMetadata.contains e.1))).Within
      (memberDiff (Entries.get? k (bs.filter fun e => !serverMetadata.contains e.1))
        (Entries.get? k (members.filter fun e => !serverMetadata.contains e.1))) := by
    intro k
    rw [get?_stripped, get?_stripped, get?_stripped]
    cases hk : serverMetadata.contains k with
    | true => exact DiffSummary.within_refl _
    | false => exact hmember k hk
  obtain ⟨hwithin, heq⟩ := Document.within_memberDiff_obj (hbsSorted.filter _)
    (hmembers.filter _) (husSorted.filter _) hstripped
  refine ⟨hwithin, heq.trans (forall_congr' fun k => ?_)⟩
  rw [get?_stripped, get?_stripped, get?_stripped]
  cases hk : serverMetadata.contains k with
  | true => simp
  | false => simp [Document.member?]

end Metadata

end Reconciler
