import Reconciler.Wire.Record

namespace Reconciler

/-!
# Metadata of a resource

The members that every resource has under `metadata`.  Each is optional; members
outside this list are not kept.

* `OwnerReference`, `ManagedFields` — entries of two of the lists;
* `Metadata` — the members;
* `Metadata.decode`, `Metadata.encode` — their wire form, which leaves out what is
  not set.
-/

/-- Documents are compared as values. -/
instance : BEq Document := ⟨Document.same⟩

/-- Tables are compared entry by entry. -/
instance {κ α : Type} [Ord κ] [BEq κ] [BEq α] : BEq (Table κ α) :=
  ⟨fun t u => t.entries == u.entries⟩

/-- A resource that owns this one. -/
structure OwnerReference where
  apiVersion : String
  blockOwnerDeletion : Option Bool
  controller : Option Bool
  kind : String
  name : String
  uid : String
deriving DecidableEq, Repr

/-- The fields that one manager of a resource has set. -/
structure ManagedFields where
  apiVersion : Option String
  fieldsType : Option String
  fieldsV1 : Option Document
  manager : Option String
  operation : Option String
  subresource : Option String
  time : Option Timestamp
deriving BEq

/-- The metadata of a resource. -/
structure Metadata where
  annotations : Option (Table String String)
  creationTimestamp : Option Timestamp
  deletionGracePeriodSeconds : Option Int64
  deletionTimestamp : Option Timestamp
  finalizers : Option (List String)
  generateName : Option String
  generation : Option Int64
  labels : Option (Table String String)
  managedFields : Option (List ManagedFields)
  name : Option String
  namespaceName : Option String
  ownerReferences : Option (List OwnerReference)
  resourceVersion : Option String
  selfLink : Option String
  uid : Option String
deriving BEq, Inhabited

/-- Metadata in which nothing is set. -/
def Metadata.empty : Metadata :=
  ⟨none, none, none, none, none, none, none, none, none, none, none, none, none, none, none⟩

/-! ### Wire form -/

open Wire

/-- A member that is an empty text when it is missing or null. -/
def textOrEmpty (name : String) : Fields String :=
  (·.getD "") <$> omittable name string

/-- Reads an owner. -/
def OwnerReference.decode : Decoder OwnerReference :=
  object "OwnerReference" <|
    OwnerReference.mk <$> textOrEmpty "apiVersion" <*> omittable "blockOwnerDeletion" boolean
      <*> omittable "controller" boolean <*> textOrEmpty "kind" <*> textOrEmpty "name"
      <*> textOrEmpty "uid"

/-- Writes an owner. -/
def OwnerReference.encode (o : OwnerReference) : Document :=
  ofParts [("apiVersion", some (.str o.apiVersion)),
    ("blockOwnerDeletion", o.blockOwnerDeletion.map .bool),
    ("controller", o.controller.map .bool),
    ("kind", some (.str o.kind)),
    ("name", some (.str o.name)),
    ("uid", some (.str o.uid))]

/-- Reads the fields of a manager. -/
def ManagedFields.decode : Decoder ManagedFields :=
  object "ManagedFieldsEntry" <|
    ManagedFields.mk <$> omittable "apiVersion" string <*> omittable "fieldsType" string
      <*> omittable "fieldsV1" .ok <*> omittable "manager" string <*> omittable "operation" string
      <*> omittable "subresource" string <*> omittable "time" timestamp

/-- Writes an instant. -/
def encodeTimestamp (t : Timestamp) : Document := .str t.text

/-- Writes the fields of a manager. -/
def ManagedFields.encode (f : ManagedFields) : Document :=
  ofParts [("apiVersion", f.apiVersion.map .str),
    ("fieldsType", f.fieldsType.map .str),
    ("fieldsV1", f.fieldsV1),
    ("manager", f.manager.map .str),
    ("operation", f.operation.map .str),
    ("subresource", f.subresource.map .str),
    ("time", f.time.map encodeTimestamp)]

namespace Metadata

/-- Reads metadata. -/
def decode : Decoder Metadata :=
  object "ObjectMeta" <|
    mk <$> omittable "annotations" stringTable <*> omittable "creationTimestamp" timestamp
      <*> omittable "deletionGracePeriodSeconds" int64 <*> omittable "deletionTimestamp" timestamp
      <*> omittable "finalizers" (list string) <*> omittable "generateName" string
      <*> omittable "generation" int64 <*> omittable "labels" stringTable
      <*> omittable "managedFields" (list ManagedFields.decode) <*> omittable "name" string
      <*> omittable "namespace" string
      <*> omittable "ownerReferences" (list OwnerReference.decode)
      <*> omittable "resourceVersion" string <*> omittable "selfLink" string
      <*> omittable "uid" string

/-- Writes what is set. -/
def encode (m : Metadata) : Document :=
  ofParts [("annotations", m.annotations.map ofTable),
    ("creationTimestamp", m.creationTimestamp.map encodeTimestamp),
    ("deletionGracePeriodSeconds", m.deletionGracePeriodSeconds.map (.int ·.toInt)),
    ("deletionTimestamp", m.deletionTimestamp.map encodeTimestamp),
    ("finalizers", m.finalizers.map fun xs => .arr (xs.map .str)),
    ("generateName", m.generateName.map .str),
    ("generation", m.generation.map (.int ·.toInt)),
    ("labels", m.labels.map ofTable),
    ("managedFields", m.managedFields.map fun xs => .arr (xs.map ManagedFields.encode)),
    ("name", m.name.map .str),
    ("namespace", m.namespaceName.map .str),
    ("ownerReferences", m.ownerReferences.map fun xs => .arr (xs.map OwnerReference.encode)),
    ("resourceVersion", m.resourceVersion.map .str),
    ("selfLink", m.selfLink.map .str),
    ("uid", m.uid.map .str)]

end Metadata

end Reconciler
