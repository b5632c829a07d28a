import Reconciler.Path.Grammar
import Reconciler.Proofs.Path.Writing
import Reconciler.Proofs.Resource.Access

namespace Reconciler.Resource

/-!
# Writing into a resource

A write goes among the members of a resource that have no place of their own, whatever its path
begins with.  Under the name of a typed part it makes a second member of this name.  A lookup
still finds the typed part, and the document of the resource has the second member instead.

* `setPath_eq`, `setPath_eq_ok` — what a write changes, and what a successful one does;
* `getPath?_congr` — what a lookup reads under the name of a typed part;
* `setPath_reads_back` — which writes are read back, and what they do to the typed members;
* `setPath_shadows_metadata` — a write that the document does not survive.
-/

variable {r r' : Resource} {p : FieldPath} {v d : Document}

/-! ### What is changed -/

/-- An object is still one after a write at a path. -/
theorem exists_obj_of_set {members : List (String × Document)} {outcome : Option PathError}
    (h : p.set v (.obj members) = (d, outcome)) : ∃ data, d = .obj data := by
  have hwrite : (Document.write v 0 p.segments (.obj members)).1 = d := congrArg Prod.fst h
  rcases Document.stepsTo_or_blocks 0 p.head (.obj members) with
    ⟨child, put, hstep⟩ | ⟨fault, hblocks⟩
  · obtain ⟨data, hdata⟩ := hstep.exists_put_eq_obj (Document.write v 1 p.rest child).1
    rw [FieldPath.segments, Document.write_of_stepsTo hstep, hdata] at hwrite
    exact ⟨data, hwrite.symm⟩
  · rw [FieldPath.segments, Document.write_of_blocks hblocks] at hwrite
    exact ⟨members, hwrite.symm⟩

/-- A write goes into the object of the other members, and this is put back in any case. -/
theorem setPath_eq {outcome : Option PathError} :
    r.setPath p v = (r', outcome) ↔
      ∃ data, p.set v (.obj r.data) = (.obj data, outcome) ∧ { r with data } = r' := by
  cases hset : p.set v (.obj r.data) with
  | mk d x =>
    -- A write at a path leaves an object in any case, so the other members are members again.
    obtain ⟨data, rfl⟩ := exists_obj_of_set hset
    have hsetPath : r.setPath p v = ({ r with data }, x) := by
      rw [setPath, hset]
    rw [hsetPath]
    constructor
    · intro h
      obtain ⟨hr, hx⟩ := Prod.mk.inj h
      exact ⟨data, by rw [hx], hr⟩
    · rintro ⟨data', hd, rfl⟩
      obtain ⟨hdata, rfl⟩ := Prod.mk.inj hd
      obtain rfl := Document.obj.inj hdata
      rfl

/-- A successful write begins with a key, and sets this member beside the others. -/
theorem setPath_eq_ok :
    r.setPath p v = (r', none) ↔
      ∃ k child, p.head = .key k ∧
        Document.write v 1 p.rest ((Entries.get? k r.data).getD .null) = (child, none) ∧
        { r with data := Entries.insert k child r.data } = r' := by
  simp only [setPath_eq, FieldPath.set_eq_ok, FieldPath.segments, Document.write_cons_eq_ok]
  obtain ⟨raw, head, rest⟩ := p
  constructor
  · rintro ⟨data, ⟨child, put, child', hstep, hchild, hdata⟩, rfl⟩
    cases hstep with
    | @key k _ members hmembers =>
      obtain rfl := Option.some.inj hmembers
      obtain rfl := Document.obj.inj hdata
      exact ⟨k, child', rfl, hchild, rfl⟩
  · rintro ⟨k, child, rfl, hchild, rfl⟩
    exact ⟨_, ⟨_, _, child, .key rfl, hchild, rfl⟩, rfl⟩

/-! ### What a lookup reads -/

/-- Under the name of a typed part it reads that part alone. -/
theorem getPath?_congr {k : String} (hhead : p.head = .key k)
    (hk : typedNames.contains k = true) (hversion : r'.apiVersion = r.apiVersion)
    (hkind : r'.kind = r.kind) (hmetadata : r'.metadata = r.metadata) :
    r'.getPath? p = r.getPath? p := by
  have hnames : k = "apiVersion" ∨ k = "kind" ∨ k = "metadata" := by
    simpa [typedNames] using hk
  rw [getPath?, getPath?, hhead]
  obtain rfl | rfl | rfl := hnames
  · simp [hversion]
  · simp [hkind]
  · simp [hmetadata]

/-! ### What a write is to a lookup and to the document -/

/-- A write leaves the typed parts of a resource that was read as they are.  Beside them the
    value is read where it was written, and their members in the document stay.  Under the name
    of one of them a lookup finds what it found before, and the member of this name is what the
    write makes of nothing, so the part is lost from the document. -/
theorem setPath_reads_back (hr : Resource.decode d = .ok r) (h : r.setPath p v = (r', none)) :
    (r'.apiVersion = r.apiVersion ∧ r'.kind = r.kind ∧ r'.metadata = r.metadata) ∧
      ∃ k, p.head = .key k ∧
        (typedNames.contains k = false →
          r'.getPath? p = some v ∧
            ∀ name ∈ typedNames, r'.encode.member? name = r.encode.member? name) ∧
        (typedNames.contains k = true →
          r'.getPath? p = r.getPath? p ∧
            r'.encode.member? k = some (Document.write v 1 p.rest .null).1 ∧
            ∀ name ∈ typedNames, name ≠ k → r'.encode.member? name = r.encode.member? name) := by
  obtain ⟨k, child, hhead, hchild, rfl⟩ := setPath_eq_ok.mp h
  -- The members that have another name than the written one.
  have hother : ∀ name, name ≠ k →
      Entries.get? name { r with data := Entries.insert k child r.data }.members =
        Entries.get? name r.members := by
    intro name hname
    rw [get?_members, get?_members, Entries.get?_insert, if_neg hname]
    rfl
  refine ⟨⟨rfl, rfl, rfl⟩, k, hhead, ?beside, ?under⟩
  case beside =>
    intro hk
    constructor
    · rw [getPath?_of_not_typed hhead hk, Entries.get?_insert_self, Option.bind_some]
      exact Document.walk_write hchild
    · intro name hname
      refine hother name ?_
      rintro rfl
      rw [List.contains_iff_mem.mpr hname] at hk
      cases hk
  case under =>
    intro hk
    refine ⟨getPath?_congr hhead hk rfl rfl rfl, ?_, fun name _ hname => hother name hname⟩
    -- A resource that was read has no other member of this name yet.
    rw [separate_of_decode hr k hk, Option.getD_none] at hchild
    show Entries.get? k { r with data := Entries.insert k child r.data }.members = _
    rw [get?_members, Entries.get?_insert_self, Option.some_or, hchild]

namespace NamespacedPod

/-- A pod in a namespace. -/
def document : Document :=
  .obj [("apiVersion", .str "v1"), ("kind", .str "Pod"),
    ("metadata", .obj [("name", .str "web"), ("namespace", .str "a")]),
    ("spec", .obj [("replicas", .nat 1)])]

/-- The pod as it is read. -/
def pod : Resource :=
  ⟨"v1", "Pod", { Metadata.empty with name := some "web", namespaceName := some "a" },
    [("spec", .obj [("replicas", .nat 1)])]⟩

/-- A place beside the typed parts, which the pod does not have yet. -/
def strategyPath : FieldPath := ⟨"spec.strategy.type", .key "spec", [.key "strategy", .key "type"]⟩

/-- The pod with a value at that place. -/
def recreated : Resource :=
  { pod with
    data :=
      [("spec", .obj [("replicas", .nat 1), ("strategy", .obj [("type", .str "Recreate")])])] }

/-- The name of the pod. -/
def namePath : FieldPath := ⟨"metadata.name", .key "metadata", [.key "name"]⟩

/-- A label that the pod does not have. -/
def labelPath : FieldPath := ⟨"metadata.labels.app", .key "metadata", [.key "labels", .key "app"]⟩

theorem decode_document : Resource.decode document = .ok pod := by rfl

end NamespacedPod

open NamespacedPod in
/-- Beside the typed parts the value is read back, and the metadata stays. -/
theorem setPath_reads_back_strategy :
    Resource.decode document = .ok pod ∧
      pod.setPath strategyPath (.str "Recreate") = (recreated, none) ∧
      recreated.getPath? strategyPath = some (.str "Recreate") ∧
      ∀ name ∈ typedNames, recreated.encode.member? name = pod.encode.member? name := by
  have hset : pod.setPath strategyPath (.str "Recreate") = (recreated, none) := by rfl
  obtain ⟨-, k, hhead, hbeside, -⟩ := setPath_reads_back decode_document hset
  obtain rfl : "spec" = k := Segment.key.inj hhead
  obtain ⟨hread, hmembers⟩ := hbeside rfl
  exact ⟨decode_document, hset, hread, hmembers⟩

open NamespacedPod in
/-- A write of the name that the pod has already takes its namespace out of the document, and
    a label that is written is not found. -/
theorem setPath_shadows_metadata :
    Resource.decode document = .ok pod ∧
      FieldPath.parse "metadata.name" = .ok namePath ∧
      FieldPath.parse "metadata.labels.app" = .ok labelPath ∧
      (∃ r', pod.setPath namePath (.str "web") = (r', none) ∧
        r'.encode.member? "metadata" ≠ pod.encode.member? "metadata") ∧
      ∃ r', pod.setPath labelPath (.str "x") = (r', none) ∧
        r'.getPath? labelPath ≠ some (.str "x") := by
  refine ⟨decode_document, by decide +kernel, by decide +kernel, ⟨_, rfl, ?_⟩, _, rfl, ?_⟩
  · intro h
    -- The namespace is looked up on both sides.
    have hnamespace := congrArg (·.bind (Document.member? "namespace")) h
    have hlost : (none : Option Document) = some (.str "a") := hnamespace
    cases hlost
  · intro h
    have hnone : (pod.setPath labelPath (.str "x")).1.getPath? labelPath = none := by rfl
    exact absurd (hnone.symm.trans h) nofun

end Reconciler.Resource
