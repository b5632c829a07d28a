import Reconciler.Wire.Record

namespace Reconciler

open Std (TransOrd LawfulEqOrd TransCmp OrientedCmp)

/-!
# Ids of resources

A resource is addressed by its type, its namespace, if it has one, and its name.

* `ResourceId` — the address, with an order by its parts;
* `ResourceId.display` — its text in messages;
* `GroupVersionKind` — the type, with the API version taken apart;
* `Identity` — the address together with the uid.
-/

/-- The address of a resource. -/
structure ResourceId where
  apiVersion : String
  kind : String
  namespaceName : Option String
  name : String
deriving DecidableEq, Repr

namespace ResourceId

/-- By API version, then kind, then namespace, with none first, then name. -/
instance : Ord ResourceId where
  compare :=
    compareLex (compareOn apiVersion) <| compareLex (compareOn kind) <|
      compareLex (compareOn namespaceName) (compareOn name)

instance : TransOrd ResourceId :=
  inferInstanceAs (TransCmp (compareLex (compareOn apiVersion) <| compareLex (compareOn kind) <|
    compareLex (compareOn namespaceName) (compareOn name)))

instance : LawfulEqOrd ResourceId where
  eq_of_compare {a b} h := by
    replace h : (compare a.apiVersion b.apiVersion).then ((compare a.kind b.kind).then
      ((compare a.namespaceName b.namespaceName).then (compare a.name b.name))) = .eq := h
    simp only [Ordering.then_eq_eq, LawfulEqOrd.compare_eq_iff_eq] at h
    obtain ⟨h1, h2, h3, h4⟩ := h
    cases a; cases b
    simp_all

/-- The address in messages; an empty namespace is left out. -/
def display (id : ResourceId) : String :=
  let type := id.apiVersion ++ "/" ++ id.kind ++ " "
  match id.namespaceName with
  | some ns => if ns.isEmpty then type ++ id.name else type ++ ns ++ "/" ++ id.name
  | none => type ++ id.name

end ResourceId

/-- The type of a resource, its API version taken apart. -/
structure GroupVersionKind where
  group : String
  version : String
  kind : String
deriving DecidableEq, Repr

/-- The group stands before the first slash of the API version; without a slash it
    is empty. -/
def ResourceId.groupVersionKind (id : ResourceId) : GroupVersionKind :=
  let cs := id.apiVersion.toList
  match cs.dropWhile (· != '/') with
  | _ :: version => ⟨String.ofList (cs.takeWhile (· != '/')), String.ofList version, id.kind⟩
  | [] => ⟨"", id.apiVersion, id.kind⟩

/-- What tells a resource from every other: its address and its uid. -/
structure Identity where
  id : ResourceId
  uid : Option String
deriving DecidableEq, Repr

/-! ### Wire form -/

open Wire

/-- Reads an address. -/
def ResourceId.decode : Decoder ResourceId :=
  record "ResourceId" <|
    ResourceId.mk <$> required "apiVersion" string <*> required "kind" string
      <*> omittable "namespace" string <*> required "name" string

/-- Writes an address. -/
def ResourceId.encode (id : ResourceId) : Document :=
  ofParts [("apiVersion", some (.str id.apiVersion)), ("kind", some (.str id.kind)),
    ("name", some (.str id.name)), ("namespace", id.namespaceName.map .str)]

end Reconciler
