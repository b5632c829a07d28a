import Reconciler.Resource.Basic

namespace Reconciler

/-!
# Dynamic objects

The form in which a host passes resources of any type: the type, the metadata,
and the other members as one object.

* `DynamicObject` — the form;
* `Resource.toDynamic`, `DynamicObject.toResource` — to it and back, through the
  written form of the resource.
-/

/-- The type of a dynamic object. -/
structure TypeMeta where
  apiVersion : String
  kind : String
deriving DecidableEq, Repr

/-- A resource of any type. -/
structure DynamicObject where
  types : Option TypeMeta
  metadata : Metadata
  data : List (String × Document)
deriving BEq

namespace DynamicObject

/-- The type, if both of its parts are there as texts. -/
def types? (members : List (String × Document)) : Option TypeMeta :=
  match Entries.get? "apiVersion" members, Entries.get? "kind" members with
  | some (.str apiVersion), some (.str kind) => some ⟨apiVersion, kind⟩
  | _, _ => none

/-- Reads a dynamic object. -/
def decode (d : Document) : Except ResourceError DynamicObject :=
  match d with
  | .obj members =>
    let data := members.filter fun e => !Resource.typedNames.contains e.1
    let fields : Wire.Fields DynamicObject :=
      (fun metadata => ⟨types? members, metadata, data⟩)
        <$> Wire.withDefault "metadata" Metadata.decode Metadata.empty
    (Wire.ofObject fields members).mapError .decode
  | d => .error (.notAnObject d.kind)

/-- Writes a dynamic object. -/
def encode (o : DynamicObject) : Document :=
  let types := match o.types with
    | some t => [("apiVersion", Document.str t.apiVersion), ("kind", .str t.kind)]
    | none => []
  .obj (Entries.overlay o.data (types ++ [("metadata", o.metadata.encode)]))

/-- The resource with the written form of a dynamic object. -/
def toResource (o : DynamicObject) : Except ResourceError Resource :=
  Resource.decode o.encode

end DynamicObject

/-- The dynamic object with the written form of a resource. -/
def Resource.toDynamic (r : Resource) : Except ResourceError DynamicObject :=
  DynamicObject.decode r.encode

end Reconciler
