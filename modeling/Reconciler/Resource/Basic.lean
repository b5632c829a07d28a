import Reconciler.Provenance
import Reconciler.Resource.Id
import Reconciler.Resource.Metadata

namespace Reconciler

/-!
# Resources

A resource is a document with a type, metadata, and any other members, which are
kept as they are.

* `Resource` — the parts;
* `Resource.decode`, `Resource.encode` — from a document and back;
* `Resource.id`, `Resource.identity` — what addresses a resource;
* `Resource.same` — equality as values;
* `Resource.withName`, `Resource.withAnnotation`, `Resource.withProvenance` —
  changed copies;
* `Resource.createdBy` — whether a watch created it.
-/

/-- A resource. -/
structure Resource where
  apiVersion : String
  kind : String
  metadata : Metadata
  /-- The other members of the document, sorted by key. -/
  data : List (String × Document)
deriving BEq, Inhabited

/-- Why a document does not read as a resource. -/
inductive ResourceError where
  | notAnObject (found : Document.Kind)
  | decode (error : Wire.DecodeError)
deriving DecidableEq, Repr

namespace ResourceError

/-- The wording of a cause. -/
def message : ResourceError → String
  | notAnObject found => "resource document must be a JSON object, found " ++ found.word
  | decode error => "decoding resource: " ++ error.message

/-- The wording together with the cause behind it, outermost first. -/
def causes : ResourceError → List String
  | e@(notAnObject _) => [e.message]
  | e@(decode error) => [e.message, error.message]

end ResourceError

/-- A chain of causes as one line of text. -/
def joinCauses (causes : List String) : String :=
  String.intercalate ": " causes

namespace Resource

open Wire

/-! ### Wire form -/

/-- The members of a resource with a place of their own. -/
def typedNames : List String := ["apiVersion", "kind", "metadata"]

/-- Reads a resource.  Every part may be missing. -/
def decode (d : Document) : Except ResourceError Resource :=
  match d with
  | .obj members =>
    let data := members.filter fun e => !typedNames.contains e.1
    let fields : Fields Resource :=
      (fun apiVersion kind metadata => ⟨apiVersion, kind, metadata, data⟩)
        <$> withDefault "apiVersion" string "" <*> withDefault "kind" string ""
        <*> withDefault "metadata" Metadata.decode Metadata.empty
    (ofObject fields members).mapError .decode
  | d => .error (.notAnObject d.kind)

/-- The parts with a place of their own, as members. -/
def typedMembers (r : Resource) : List (String × Document) :=
  [("apiVersion", .str r.apiVersion), ("kind", .str r.kind), ("metadata", r.metadata.encode)]

/-- The document of a resource.  A member of `data` stands before a typed one of
    the same name. -/
def encode (r : Resource) : Document :=
  .obj (Entries.overlay r.data r.typedMembers)

/-! ### Identity -/

/-- The name; empty if there is none. -/
def name (r : Resource) : String :=
  r.metadata.name.getD ""

/-- A text, unless it is empty. -/
def unlessEmpty (s : Option String) : Option String :=
  s.filter (!·.isEmpty)

/-- The namespace; an empty one counts as none. -/
def namespaceName (r : Resource) : Option String :=
  unlessEmpty r.metadata.namespaceName

/-- The uid. -/
def uid (r : Resource) : Option String :=
  r.metadata.uid

/-- The address. -/
def id (r : Resource) : ResourceId :=
  ⟨r.apiVersion, r.kind, r.namespaceName, r.name⟩

/-- The address and the uid. -/
def identity (r : Resource) : Identity :=
  ⟨r.id, r.uid⟩

/-! ### Comparison -/

/-- The same type, namespace, name and uid. -/
def sameIdentity (a b : Resource) : Bool :=
  a.apiVersion == b.apiVersion && a.kind == b.kind && a.namespaceName == b.namespaceName &&
    a.name == b.name && a.uid == b.uid

/-- The number of entries of a table that may be missing. -/
def tableSize (t : Option (Table String String)) : Nat :=
  (t.map Table.size).getD 0

/-- The number of items of a list that may be missing. -/
def listLength {α : Type} (xs : Option (List α)) : Nat :=
  (xs.map List.length).getD 0

/-- The collections of the metadata have the same sizes. -/
def sameSizes (a b : Metadata) : Bool :=
  tableSize a.labels == tableSize b.labels && tableSize a.annotations == tableSize b.annotations &&
    listLength a.ownerReferences == listLength b.ownerReferences &&
    listLength a.finalizers == listLength b.finalizers

/-- Equality as values.  The identities and the sizes of the collections tell most
    resources apart before the parts are compared. -/
def same (a b : Resource) : Bool :=
  sameIdentity a b && sameSizes a.metadata b.metadata && a == b

/-! ### Parts -/

/-- The desired state. -/
def spec? (r : Resource) : Option Document :=
  Entries.get? "spec" r.data

/-- The observed state. -/
def status? (r : Resource) : Option Document :=
  Entries.get? "status" r.data

/-- The value of a label. -/
def label? (r : Resource) (key : String) : Option String :=
  r.metadata.labels.bind (·.get? key)

/-- The value of an annotation. -/
def annotation? (r : Resource) (key : String) : Option String :=
  r.metadata.annotations.bind (·.get? key)

/-! ### Changed copies -/

/-- The annotations, of which there may be none. -/
def annotations (r : Resource) : Table String String :=
  r.metadata.annotations.getD Table.empty

/-- With these annotations. -/
def withAnnotations (r : Resource) (annotations : Table String String) : Resource :=
  { r with metadata := { r.metadata with annotations := some annotations } }

/-- With an annotation set. -/
def withAnnotation (r : Resource) (key value : String) : Resource :=
  r.withAnnotations (r.annotations.insert key value)

/-- With another name. -/
def withName (r : Resource) (name : String) : Resource :=
  { r with metadata := { r.metadata with name := some name } }

/-- With the annotations that record a provenance; those it does not set stay. -/
def withProvenance (r : Resource) (p : Provenance) : Resource :=
  r.withAnnotations (p.annotations.foldl (fun t (k, v) => t.insert k v) r.annotations)

/-! ### Ownership -/

/-- The provenance that the annotations record. -/
def provenance? (r : Resource) : Option Provenance :=
  r.metadata.annotations.bind Provenance.ofAnnotations?

/-- The resource carries the marker of this watch. -/
def createdBy (r : Resource) (watch : Owner) : Bool :=
  match r.provenance? with
  | some p => p.watch.uid == watch.uid
  | none => false

end Resource

end Reconciler
