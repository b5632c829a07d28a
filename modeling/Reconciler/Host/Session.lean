import Reconciler.Host.Reconcile

namespace Reconciler

/-!
# Sessions of a host

A host keeps the resources attached to a watched one and reconciles it again and
again, carrying out each response that went well.

* `Session` — the watched resource and the attached ones;
* `Pass` — what changes before a reconciliation;
* `Session.pass` — one reconciliation and its effect;
* `Session.passes` — one after the other.
-/

/-- The state of a host. -/
structure Session where
  watch : Resource
  attachments : Table ResourceId Resource

/-- Changes from outside before a reconciliation. -/
structure Pass where
  /-- The new `spec` of the watched resource, if it changes. -/
  spec : Option Document
  /-- New resources. -/
  add : List Resource
  /-- The addresses, as messages show them, of resources that disappear. -/
  drop : List String

namespace Session

/-- The session of a request. -/
def ofRequest (r : ReconcileRequest) : Session := ⟨r.watch, r.attachments⟩

/-- Resources set by address, the later ones last. -/
def insertAll (t : Table ResourceId Resource) (rs : List Resource) : Table ResourceId Resource :=
  rs.foldl (fun t r => t.insert r.id r) t

/-- Makes the changes of a pass: the spec, then additions, then disappearances. -/
def change (s : Session) (p : Pass) : Session :=
  let watch := match p.spec with
    | some d => { s.watch with data := Entries.insert "spec" d s.watch.data }
    | none => s.watch
  let attachments := insertAll s.attachments p.add
  ⟨watch, attachments.filter fun id _ => !p.drop.contains id.display⟩

/-- Carries out a response: the resources of the watch are replaced by the desired
    ones, and the explicit changes are made. -/
def carryOut (s : Session) (d : Delta) : Session :=
  let watch := Owner.watch (s.watch.uid.getD "") s.watch.name
  let foreign := s.attachments.filter fun _ r => !r.createdBy watch
  let kept := d.explicitDeletes.foldl (fun t r => t.erase r.id) foreign
  { s with attachments := insertAll (insertAll kept d.explicitUpdates) d.desired }

/-- One pass: the response, and the state after it. -/
def pass (e : Engine) (s : Session) (p : Pass) : ReconcileResponse × Session :=
  let s := s.change p
  let response := reconcile e ⟨s.watch, s.attachments⟩
  (response, if response.status.phase = .online then s.carryOut response.delta else s)

/-- The responses of passes, each with the state after it. -/
def passes (e : Engine) (s : Session) : List Pass → List (ReconcileResponse × Session)
  | [] => []
  | p :: rest =>
    let (response, next) := s.pass e p
    (response, next) :: passes e next rest

end Session

end Reconciler
