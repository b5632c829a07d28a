import Mathlib.Data.List.Perm.Basic
import Reconciler.Host.Reconcile
import Reconciler.Proofs.Entries
import Reconciler.Proofs.Success

namespace Reconciler

/-!
# What a request attaches

The attached resources of a request are stored by their addresses, and a run finds them in
the order of these.  The order in which the documents came decides one thing: which of
several resources at one address stays.

* `ReconcileRequest.Attaches` — at each address the last of some resources stands;
* `ReconcileRequest.ofResources_perm` — resources at distinct addresses may come in any order;
* `ReconcileRequest.attachDocuments_eq_ok`, `attachDocuments_eq_error` — when documents are
  attached, and the position of the one that is at fault when they are not;
* `ReconcileRequest.ofDocuments_attachments` — all of this for the request of some documents.
-/

namespace ReconcileRequest

/-! ### Resources -/

/-- At each address that some of the resources have, the request attaches the last one of
    these, and it attaches nothing else. -/
structure Attaches (request : ReconcileRequest) (rs : List Resource) : Prop where
  last : ∀ id r, request.attachments.get? id = some r ↔
    ∃ before after, rs = before ++ r :: after ∧ r.id = id ∧ ∀ s ∈ after, s.id ≠ id
  keyed : ∀ e ∈ request.attachments.entries, e.1 = e.2.id

variable {rs rs' : List Resource}

/-- Resources under their addresses are looked up by these. -/
theorem lookup_map_id (rs : List Resource) (id : ResourceId) :
    (rs.map fun r => (r.id, r)).lookup id = rs.find? (·.id == id) := by
  induction rs with
  | nil => rfl
  | cons r rest ih => rw [List.map_cons, List.lookup_cons, List.find?_cons, ih, BEq.comm]

/-- At an address stands the last resource that has it. -/
theorem get?_attach (rs : List Resource) (id : ResourceId) :
    (attach rs).get? id = rs.reverse.find? (·.id == id) := by
  rw [attach, Table.get?_ofList, ← List.map_reverse, lookup_map_id]

/-- A request made of resources attaches each of them at its own address, and the last one where
    several share it. -/
theorem attaches_ofResources (watch : Resource) (rs : List Resource) :
    (ofResources watch rs).Attaches rs := by
  -- The last resource at an address is the first one from behind.
  have hlast : ∀ id r, (attach rs).get? id = some r ↔
      ∃ before after, rs = before ++ r :: after ∧ r.id = id ∧ ∀ s ∈ after, s.id ≠ id := by
    intro id r
    rw [get?_attach, List.find?_eq_some_iff_append]
    constructor
    · rintro ⟨hid, as, bs, hrs, has⟩
      refine ⟨bs.reverse, as.reverse, ?_, beq_iff_eq.mp hid, fun s hs => ?_⟩
      · simpa using congrArg List.reverse hrs
      · simpa using has s (List.mem_reverse.mp hs)
    · rintro ⟨before, after, rfl, hid, hafter⟩
      refine ⟨beq_iff_eq.mpr hid, after.reverse, before.reverse, by simp, fun s hs => ?_⟩
      simpa using hafter s (List.mem_reverse.mp hs)
  refine ⟨hlast, fun ⟨id, r⟩ he => ?_⟩
  obtain ⟨_, _, -, hid, -⟩ := (hlast id r).mp (Table.mem_entries_iff.mp he)
  exact hid.symm

/-- Resources at distinct addresses make one request, in whatever order they come. -/
theorem ofResources_perm (watch : Resource) (h : rs.Perm rs')
    (hids : (rs.map Resource.id).Nodup) : ofResources watch rs = ofResources watch rs' := by
  have hkeys : ((rs.map fun r => (r.id, r)).map (·.1)).Nodup := by
    rw [List.map_map]
    exact hids
  rw [ofResources, ofResources, attach, attach, Table.ofList_perm (h.map _) hkeys]

/-! ### Documents -/

section Documents

variable {watch : Document} {docs docs' : List Document} {attached : Table ResourceId Resource}
  {index : Nat} {request : ReconcileRequest}

/-- Documents that all read are attached as their resources are. -/
theorem attachDocuments_eq_ok {t : Table ResourceId Resource} :
    attachDocuments attached index docs = .ok t ↔
      ∃ rs, List.Forall₂ (fun d r => Resource.decode d = .ok r) docs rs ∧
        t = rs.foldl (fun t r => t.insert r.id r) attached := by
  -- On the documents, with any table and position to begin with.
  induction docs generalizing attached index with
  | nil => simp [attachDocuments, eq_comm]
  | cons d rest ih =>
    simp only [attachDocuments, bind_eq_ok, mapError_eq_ok, ih, List.forall₂_cons_left_iff]
    constructor
    · rintro ⟨r, hr, rs, hrs, rfl⟩
      exact ⟨r :: rs, ⟨r, rs, hr, hrs, rfl⟩, rfl⟩
    · rintro ⟨_, ⟨r, rs, hr, hrs, rfl⟩, rfl⟩
      exact ⟨r, hr, rs, hrs, rfl⟩

/-- Otherwise the first document that does not read is at fault. -/
theorem attachDocuments_eq_error {x : RequestError} :
    attachDocuments attached index docs = .error x ↔
      ∃ before d after error, docs = before ++ d :: after ∧
        (∀ d' ∈ before, ∃ r, Resource.decode d' = .ok r) ∧ Resource.decode d = .error error ∧
        x = .attachment (index + before.length) error := by
  -- On the documents; the position of the failing one counts from where the list begins.
  induction docs generalizing attached index with
  | nil => simp [attachDocuments]
  | cons d rest ih =>
    simp only [attachDocuments, bind_eq_error, mapError_eq_error, mapError_eq_ok, ih]
    constructor
    · rintro (⟨error, hd, rfl⟩ | ⟨r, hr, before, d', after, error, rfl, hbefore, hd', rfl⟩)
      · exact ⟨[], d, rest, error, rfl, List.forall_mem_nil _, hd, rfl⟩
      · refine ⟨d :: before, d', after, error, rfl, ?_, hd', ?_⟩
        · exact List.forall_mem_cons.mpr ⟨⟨r, hr⟩, hbefore⟩
        · rw [List.length_cons, Nat.add_assoc, Nat.add_comm 1]
    · rintro ⟨before, d', after, error, hdocs, hbefore, hd', rfl⟩
      cases before with
      | nil =>
        obtain ⟨rfl, rfl⟩ := List.cons.inj hdocs
        exact .inl ⟨error, hd', rfl⟩
      | cons d'' before =>
        obtain ⟨rfl, rfl⟩ := List.cons.inj hdocs
        obtain ⟨⟨r, hr⟩, hbefore⟩ := List.forall_mem_cons.mp hbefore
        refine .inr ⟨r, hr, before, d', after, error, rfl, hbefore, hd', ?_⟩
        rw [List.length_cons, Nat.add_assoc, Nat.add_comm 1]

/-- A request is read when all of its documents are, and it is the request of the resources
    that they read as. -/
theorem ofDocuments_eq_ok :
    ofDocuments watch docs = .ok request ↔
      ∃ w rs, Resource.decode watch = .ok w ∧
        List.Forall₂ (fun d r => Resource.decode d = .ok r) docs rs ∧
        request = ofResources w rs := by
  -- Documents are attached one after the other, as entries are to a table.
  have hattach : ∀ rs, rs.foldl (fun t r => t.insert r.id r) Table.empty = attach rs := by
    intro rs
    rw [attach, Table.ofList_eq_foldl, List.foldl_map]
  simp only [ofDocuments, bind_eq_ok, mapError_eq_ok, pure_eq_ok, attachDocuments_eq_ok, hattach]
  constructor
  · rintro ⟨w, hw, _, ⟨rs, hrs, rfl⟩, rfl⟩
    exact ⟨w, rs, hw, hrs, rfl⟩
  · rintro ⟨w, rs, hw, hrs, rfl⟩
    exact ⟨w, hw, _, ⟨rs, hrs, rfl⟩, rfl⟩

/-- Otherwise the watched document is at fault if it does not read, and else the first one
    among the others that does not. -/
theorem ofDocuments_eq_error {x : RequestError} :
    ofDocuments watch docs = .error x ↔
      (∃ error, Resource.decode watch = .error error ∧ x = .watch error) ∨
        (∃ w, Resource.decode watch = .ok w) ∧
          ∃ before d after error, docs = before ++ d :: after ∧
            (∀ d' ∈ before, ∃ r, Resource.decode d' = .ok r) ∧
            Resource.decode d = .error error ∧ x = .attachment before.length error := by
  simp only [ofDocuments, bind_eq_error, mapError_eq_error, mapError_eq_ok,
    attachDocuments_eq_error, Nat.zero_add]
  constructor
  · rintro (⟨error, hw, rfl⟩ | ⟨w, hw, hfault | ⟨t, -, h⟩⟩)
    · exact .inl ⟨error, hw, rfl⟩
    · exact .inr ⟨⟨w, hw⟩, hfault⟩
    · cases h
  · rintro (⟨error, hw, rfl⟩ | ⟨⟨w, hw⟩, hfault⟩)
    · exact .inl ⟨error, hw, rfl⟩
    · exact .inr ⟨w, hw, .inl hfault⟩

/-- Documents that read as resources at distinct addresses make one request, in whatever order
    they come. -/
theorem ofDocuments_perm (watch : Document) (h : docs.Perm docs')
    (hrs : List.Forall₂ (fun d r => Resource.decode d = .ok r) docs rs)
    (hids : (rs.map Resource.id).Nodup) : ofDocuments watch docs = ofDocuments watch docs' := by
  -- The resources of the other documents are the same in another order.
  obtain ⟨rs', hrs', hperm⟩ := List.perm_comp_forall₂ h.symm hrs
  cases hw : Resource.decode watch with
  | error error =>
    rw [ofDocuments_eq_error.mpr (.inl ⟨error, hw, rfl⟩),
      ofDocuments_eq_error.mpr (.inl ⟨error, hw, rfl⟩)]
  | ok w =>
    rw [ofDocuments_eq_ok.mpr ⟨w, rs, hw, hrs, rfl⟩, ofDocuments_eq_ok.mpr ⟨w, rs', hw, hrs', rfl⟩,
      ofResources_perm w hperm.symm hids]

/-- A request is read from documents exactly when all of them read, and else the watched one is
    at fault or the first of the others that does not read, by its position.  It is then the
    request of the resources that they read as: at each address it attaches the last resource
    that has it.  When no two of them have one address, their order does not show in any
    response. -/
theorem ofDocuments_attachments (watch : Document) (docs : List Document) :
    (∀ request, ofDocuments watch docs = .ok request ↔
      ∃ w rs, Resource.decode watch = .ok w ∧
        List.Forall₂ (fun d r => Resource.decode d = .ok r) docs rs ∧
        request = ofResources w rs) ∧
    (∀ x, ofDocuments watch docs = .error x ↔
      (∃ error, Resource.decode watch = .error error ∧ x = .watch error) ∨
        (∃ w, Resource.decode watch = .ok w) ∧
          ∃ before d after error, docs = before ++ d :: after ∧
            (∀ d' ∈ before, ∃ r, Resource.decode d' = .ok r) ∧
            Resource.decode d = .error error ∧ x = .attachment before.length error) ∧
    ∀ rs, List.Forall₂ (fun d r => Resource.decode d = .ok r) docs rs →
      (∀ request, ofDocuments watch docs = .ok request → request.Attaches rs) ∧
      ((rs.map Resource.id).Nodup → ∀ docs', docs.Perm docs' → ∀ e : Engine,
        (ofDocuments watch docs').map (reconcile e) =
          (ofDocuments watch docs).map (reconcile e)) := by
  refine ⟨fun request => ofDocuments_eq_ok, fun x => ofDocuments_eq_error, fun rs hrs => ⟨?_, ?_⟩⟩
  · intro request h
    obtain ⟨w, rs', -, hrs', rfl⟩ := ofDocuments_eq_ok.mp h
    have hsame : rs' = rs := ok_unique (mapM_eq_ok.mpr hrs') (mapM_eq_ok.mpr hrs)
    rw [hsame]
    exact attaches_ofResources w rs
  · intro hids docs' hperm e
    rw [ofDocuments_perm watch hperm hrs hids]

end Documents

namespace Pods

/-- A watched resource without a spec. -/
def recipe : Resource :=
  ⟨"dev.converge/v1", "Recipe",
    { Metadata.empty with name := some "w", uid := some "w-uid" }, []⟩

/-- A pod with this name and this uid. -/
def pod (name uid : String) : Resource :=
  ⟨"v1", "Pod", { Metadata.empty with name := some name, uid := some uid }, []⟩

/-- Pods of such names are written and read back as they are. -/
theorem decode_encode_pods (pods : List (String × String)) :
    List.Forall₂ (fun d r => Resource.decode d = .ok r)
      (pods.map fun p => (pod p.1 p.2).encode) (pods.map fun p => pod p.1 p.2) := by
  rw [List.forall₂_map_left_iff, List.forall₂_map_right_iff, List.forall₂_same]
  exact fun _ _ => rfl

end Pods

open Pods in
/-- Of two pods with one name the later one is attached, and two pods with different names may
    come in either order. -/
theorem ofDocuments_attachments_pods :
    (∃ request, ofDocuments recipe.encode
        [(pod "web" "u-1").encode, (pod "api" "u-2").encode, (pod "web" "u-3").encode] =
          .ok request ∧
        request.attachments.get? (pod "web" "u-1").id = some (pod "web" "u-3")) ∧
      ([pod "web" "u-1", pod "api" "u-2"].map Resource.id).Nodup ∧
      ∀ e : Engine,
        (ofDocuments recipe.encode [(pod "api" "u-2").encode, (pod "web" "u-1").encode]).map
            (reconcile e) =
          (ofDocuments recipe.encode [(pod "web" "u-1").encode, (pod "api" "u-2").encode]).map
            (reconcile e) := by
  have hids : ([pod "web" "u-1", pod "api" "u-2"].map Resource.id).Nodup := by decide
  refine ⟨?_, hids, ?_⟩
  · obtain ⟨hok, -, hattaches⟩ := ofDocuments_attachments recipe.encode
      [(pod "web" "u-1").encode, (pod "api" "u-2").encode, (pod "web" "u-3").encode]
    have hrs := decode_encode_pods [("web", "u-1"), ("api", "u-2"), ("web", "u-3")]
    have hrequest := (hok _).mpr ⟨recipe, _, rfl, hrs, rfl⟩
    have hattached := (hattaches _ hrs).1 _ hrequest
    refine ⟨_, hrequest, (hattached.last _ _).mpr ?_⟩
    exact ⟨[pod "web" "u-1", pod "api" "u-2"], [], rfl, rfl, List.forall_mem_nil _⟩
  · obtain ⟨-, -, hattaches⟩ := ofDocuments_attachments recipe.encode
      [(pod "web" "u-1").encode, (pod "api" "u-2").encode]
    have hrs := decode_encode_pods [("web", "u-1"), ("api", "u-2")]
    exact (hattaches _ hrs).2 hids _ (.swap _ _ _)

end ReconcileRequest

end Reconciler
