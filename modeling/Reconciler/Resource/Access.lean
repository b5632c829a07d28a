import Reconciler.Path.Access
import Reconciler.Resource.Basic

namespace Reconciler.Resource

/-!
# Reading and writing a resource at a path

* `getPath?` — the value at a path of the resource's document, without building
  the document;
* `setPath` — the resource with a value written among its untyped members.
-/

/-- The value at a path.  The type is a text of its own, metadata is looked up in
    its written form, and the rest among the other members. -/
def getPath? (r : Resource) (p : FieldPath) : Option Document :=
  match p.head with
  | .index _ => none
  | .key "apiVersion" => if p.rest.isEmpty then some (.str r.apiVersion) else none
  | .key "kind" => if p.rest.isEmpty then some (.str r.kind) else none
  | .key "metadata" => Document.walk p.rest r.metadata.encode
  | .key k => (Entries.get? k r.data).bind (Document.walk p.rest)

/-- Writes among the members without a place of their own, whatever the path
    begins with.  What a failing write has made on its way stays. -/
def setPath (r : Resource) (p : FieldPath) (v : Document) : Resource × Option PathError :=
  let (d, error) := p.set v (.obj r.data)
  match d with
  | .obj data => ({ r with data }, error)
  | _ => ({ r with data := [] }, error)

end Reconciler.Resource
