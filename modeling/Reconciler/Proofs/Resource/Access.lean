import Reconciler.Path.Grammar
import Reconciler.Proofs.Resource.Provenance
import Reconciler.Resource.Access

namespace Reconciler

/-!
# The document of a resource

A resource is looked up without its document being built.  What is found is what the document
has at the path, as long as none of the typed parts hides behind another member of its name;
a resource that was read has no such member.

* `Resource.members`, `Resource.get?_members` — the members of the document of a resource;
* `Resource.Separate` — no typed part is hidden, as in every resource that was read;
* `Resource.getPath?_eq` — a lookup in a resource is one in its document;
* `Resource.Change`, `Resource.changed` — copies with changes made one after the other;
* `Resource.getPath?_changed` — a lookup in such a copy of a resource that was read.
-/

/-- No step leads into a text. -/
theorem Document.walk_str (steps : List Segment) (s : String) :
    (Document.str s).walk steps = if steps.isEmpty then some (.str s) else none := by
  cases steps with
  | nil => rfl
  | cons step _ => cases step <;> rfl

namespace Resource

/-! ### Members -/

/-- The members of the document of a resource. -/
def members (r : Resource) : List (String × Document) :=
  Entries.overlay r.data r.typedMembers

theorem encode_eq (r : Resource) : r.encode = .obj r.members := rfl

/-- The members of a resource stand in the order of their names. -/
theorem sorted_members (r : Resource) : Entries.Sorted r.members := by
  have htyped : Entries.Sorted r.typedMembers := by
    simp only [Entries.Sorted, typedMembers, List.pairwise_cons, List.forall_mem_cons]
    decide
  exact htyped.overlay r.data

/-- A member of `data` stands before a part of the same name. -/
theorem get?_members (k : String) (r : Resource) :
    Entries.get? k r.members = (Entries.get? k r.data).or (Entries.get? k r.typedMembers) :=
  Entries.get?_overlay k r.data r.typedMembers

/-- Another name finds no typed part. -/
theorem get?_typedMembers_of_not_typed {k : String} (hk : typedNames.contains k = false)
    (r : Resource) : Entries.get? k r.typedMembers = none := by
  rw [Entries.get?_eq_none_iff]
  intro h
  have hk' : k ∈ typedNames := h
  simp [hk'] at hk

/-- A resource that was read has none of its parts among the other members. -/
theorem get?_data_of_decode {members : List (String × Document)} {r : Resource}
    (h : Resource.decode (.obj members) = .ok r) (k : String) :
    Entries.get? k r.data = if typedNames.contains k then none else Entries.get? k members := by
  obtain ⟨_, hmembers, -, -, -, hdata⟩ := decode_eq_ok.mp h
  obtain rfl := Document.obj.inj hmembers
  rw [← hdata, Entries.get?_filter_key k fun k => !typedNames.contains k]
  cases typedNames.contains k <;> rfl

/-- None of the other members has the name of a typed part. -/
def Separate (r : Resource) : Prop :=
  ∀ k, typedNames.contains k = true → Entries.get? k r.data = none

/-- No resource that was read has a second value for a typed part. -/
theorem separate_of_decode {d : Document} {r : Resource} (h : Resource.decode d = .ok r) :
    r.Separate := by
  obtain ⟨members, rfl, -⟩ := decode_eq_ok.mp h
  intro k hk
  rw [get?_data_of_decode h, if_pos hk]

/-- Then the typed parts are written under their own names. -/
theorem Separate.get?_members {r : Resource} (h : r.Separate) {k : String}
    (hk : typedNames.contains k = true) :
    Entries.get? k r.members = Entries.get? k r.typedMembers := by
  rw [Resource.get?_members, h k hk, Option.none_or]

/-- Every other name finds what is among the other members. -/
theorem get?_members_of_not_typed {k : String} (hk : typedNames.contains k = false)
    (r : Resource) : Entries.get? k r.members = Entries.get? k r.data := by
  rw [get?_members, get?_typedMembers_of_not_typed hk, Option.or_none]

/-! ### Paths -/

/-- The value at a path of a resource is the one at this path of its document. -/
theorem getPath?_eq_of_separate {r : Resource} (h : r.Separate) (p : FieldPath) :
    r.getPath? p = p.get? r.encode := by
  have hget : ∀ k, p.head = .key k →
      p.get? r.encode = (Entries.get? k r.members).bind (Document.walk p.rest) := by
    intro k hk
    rw [FieldPath.get?, FieldPath.segments, hk, encode_eq, Document.walk]
  unfold getPath?
  -- By the first step: a position, the name of a typed part, or another name.
  split
  · next i hhead =>
    rw [FieldPath.get?, FieldPath.segments, hhead, encode_eq]
    rfl
  · next hhead =>
    rw [hget _ hhead, h.get?_members rfl]
    exact (Document.walk_str p.rest r.apiVersion).symm
  · next hhead =>
    rw [hget _ hhead, h.get?_members rfl]
    exact (Document.walk_str p.rest r.kind).symm
  · next hhead =>
    rw [hget _ hhead, h.get?_members rfl]
    rfl
  · next k hversion hkind hmetadata hhead =>
    have hk : typedNames.contains k = false := by
      simp only [typedNames, List.contains_eq_mem, List.mem_cons, List.not_mem_nil, or_false,
        decide_eq_false_iff_not, not_or]
      exact ⟨hversion, hkind, hmetadata⟩
    rw [hget _ hhead, get?_members_of_not_typed hk]

/-- A path reads a resource that was read from a document as it reads what is written of it. -/
theorem getPath?_eq {d : Document} {r : Resource} (h : Resource.decode d = .ok r)
    (p : FieldPath) : r.getPath? p = p.get? r.encode :=
  getPath?_eq_of_separate (separate_of_decode h) p

/-- Beside the typed parts a lookup reads the other members alone. -/
theorem getPath?_of_not_typed {k : String} {p : FieldPath} (hhead : p.head = .key k)
    (hk : typedNames.contains k = false) (r : Resource) :
    r.getPath? p = (Entries.get? k r.data).bind (Document.walk p.rest) := by
  have hnames : k ≠ "apiVersion" ∧ k ≠ "kind" ∧ k ≠ "metadata" := by
    simpa [typedNames] using hk
  obtain ⟨hversion, hkind, hmetadata⟩ := hnames
  rw [getPath?, hhead]
  split <;> simp_all

/-! ### Changed copies -/

/-- A change that a copy of a resource is made with. -/
inductive Change where
  | rename (name : String)
  | annotate (key value : String)
  | stamp (p : Provenance)

/-- The copy with one change. -/
def Change.apply (r : Resource) : Change → Resource
  | .rename name => r.withName name
  | .annotate key value => r.withAnnotation key value
  | .stamp p => r.withProvenance p

/-- The copy with some changes, one after the other. -/
def changed (r : Resource) (changes : List Change) : Resource :=
  changes.foldl Change.apply r

/-- A change is one of the metadata. -/
theorem Change.data_apply (c : Change) (r : Resource) : (c.apply r).data = r.data := by
  cases c <;> rfl

/-- Changes of the typed parts leave the other members alone. -/
theorem data_changed (r : Resource) (changes : List Change) :
    (r.changed changes).data = r.data := by
  induction changes generalizing r with
  | nil => rfl
  | cons c changes ih =>
    have hstep : (r.changed (c :: changes)).data = ((c.apply r).changed changes).data := rfl
    rw [hstep, ih, c.data_apply]

/-- The typed parts of a changed copy are as little hidden as they were. -/
theorem Separate.changed {r : Resource} (h : r.Separate) (changes : List Change) :
    (r.changed changes).Separate := by
  intro k hk
  rw [data_changed]
  exact h k hk

/-- A lookup at any path in a changed copy of a resource that was read is one in the document of
    the copy.  Beside the typed parts it is even one in the document that the resource was read
    from.  There is a value at a path or none, and no lookup fails: a path has a first step, and
    metadata can always be written. -/
theorem getPath?_changed {d : Document} {r : Resource} (h : Resource.decode d = .ok r)
    (changes : List Change) (p : FieldPath) :
    (r.changed changes).getPath? p = p.get? (r.changed changes).encode ∧
      ∀ k, p.head = .key k → k ∉ typedNames → (r.changed changes).getPath? p = p.get? d := by
  refine ⟨getPath?_eq_of_separate ((separate_of_decode h).changed changes) p, fun k hhead hk => ?_⟩
  have hk' : typedNames.contains k = false := by simpa using hk
  obtain ⟨members, rfl, -⟩ := decode_eq_ok.mp h
  rw [getPath?_of_not_typed hhead hk', data_changed, get?_data_of_decode h, hk', FieldPath.get?,
    FieldPath.segments, hhead]
  rfl

end Resource

namespace AnnotatedService

/-- A service with an annotation, and with a list beside the typed parts. -/
def document : Document :=
  .obj [("apiVersion", .str "v1"), ("kind", .str "Service"),
    ("metadata", .obj [("annotations", .obj [("note", .str "old")]), ("name", .str "web")]),
    ("spec", .obj [("ports", .arr [.obj [("port", .nat 80)]])])]

/-- The service as it is read. -/
def service : Resource :=
  ⟨"v1", "Service",
    { Metadata.empty with
      annotations := some ⟨[("note", "old")], by decide⟩
      name := some "web" },
    [("spec", .obj [("ports", .arr [.obj [("port", .nat 80)]])])]⟩

/-- A copy that has another name, another note and a stamp. -/
def changes : List Resource.Change :=
  [.rename "web-1", .stamp ⟨Owner.watch "w-uid" "w", none, none⟩, .annotate "note" "new"]

/-- The note. -/
def notePath : FieldPath :=
  ⟨"metadata.annotations.note", .key "metadata", [.key "annotations", .key "note"]⟩

/-- A place in the list. -/
def portPath : FieldPath :=
  ⟨"spec.ports[0].port", .key "spec", [.key "ports", .index 0, .key "port"]⟩

end AnnotatedService

open AnnotatedService in
/-- The new note is in the document of the copy, and the port is still in that of the service. -/
theorem Resource.getPath?_changed_service :
    Resource.decode document = .ok service ∧
      (FieldPath.parse "metadata.annotations.note" = .ok notePath ∧
        FieldPath.parse "spec.ports[0].port" = .ok portPath) ∧
      ((service.changed changes).getPath? notePath = some (.str "new") ∧
        notePath.get? (service.changed changes).encode = some (.str "new")) ∧
      "spec" ∉ typedNames ∧ (service.changed changes).getPath? portPath = some (.nat 80) ∧
        portPath.get? document = some (.nat 80) := by
  have hdecode : Resource.decode document = .ok service := by rfl
  have hspec : "spec" ∉ typedNames := by decide
  have hnote : (service.changed changes).getPath? notePath = some (.str "new") := by rfl
  have hport : (service.changed changes).getPath? portPath = some (.nat 80) := by rfl
  obtain ⟨hwritten, -⟩ := Resource.getPath?_changed hdecode changes notePath
  obtain ⟨-, hread⟩ := Resource.getPath?_changed hdecode changes portPath
  exact ⟨hdecode, ⟨by decide +kernel, by decide +kernel⟩, ⟨hnote, hwritten.symm.trans hnote⟩,
    hspec, hport, (hread "spec" rfl hspec).symm.trans hport⟩

end Reconciler
