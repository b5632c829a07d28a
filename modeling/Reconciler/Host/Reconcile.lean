import Reconciler.Run.Basic

namespace Reconciler

/-!
# Reconciling a watched resource

The host passes a watched resource and the resources attached to it, and is told
which attachments to keep and what to change or delete elsewhere.  The `spec` of the
watched resource holds the run, and the resource is both watch and run.

* `ReconcileRequest` — the watched resource and its attachments, by address;
* `ReconcileRequest.ofDocuments` — a request from documents;
* `reconcile` — the response, which always exists;
* `ReconcileResponse`, `StatusPatch` — what the host is told.
-/

/-- A watched resource and what is attached to it. -/
structure ReconcileRequest where
  watch : Resource
  attachments : Table ResourceId Resource

/-- Why documents are no request. -/
inductive RequestError where
  | watch (error : ResourceError)
  | attachment (index : Nat) (error : ResourceError)
deriving DecidableEq, Repr

/-- The wording together with the causes behind it, outermost first. -/
def RequestError.causes : RequestError → List String
  | watch error => "decoding watched resource" :: error.causes
  | attachment index error => ("decoding attachment #" ++ toString index) :: error.causes

namespace ReconcileRequest

/-- Resources by address; of several with one address the last one stays. -/
def attach (rs : List Resource) : Table ResourceId Resource :=
  Table.ofList (rs.map fun r => (r.id, r))

/-- A request from resources. -/
def ofResources (watch : Resource) (attachments : List Resource) : ReconcileRequest :=
  ⟨watch, attach attachments⟩

/-- Reads documents and attaches each resource, in the place of one that is attached at its
    address; `index` is the position of the first document. -/
def attachDocuments (attached : Table ResourceId Resource) (index : Nat) :
    List Document → Except RequestError (Table ResourceId Resource)
  | [] => .ok attached
  | d :: rest => do
    let r ← (Resource.decode d).mapError (.attachment index)
    attachDocuments (attached.insert r.id r) (index + 1) rest

/-- A request from documents. -/
def ofDocuments (watch : Document) (attachments : List Document) :
    Except RequestError ReconcileRequest := do
  let watch ← (Resource.decode watch).mapError .watch
  return ⟨watch, ← attachDocuments Table.empty 0 attachments⟩

/-- The attached resources, by address. -/
def observed (r : ReconcileRequest) : List Resource :=
  r.attachments.values

end ReconcileRequest

/-! ### Responses -/

/-- Whether a reconciliation went well. -/
inductive StatusPhase where
  | online
  | error
deriving DecidableEq, Repr

/-- The name of a phase. -/
def StatusPhase.name : StatusPhase → String
  | online => "Online"
  | error => "Error"

/-- What the host writes into the status of the watched resource. -/
structure StatusPatch where
  phase : StatusPhase
  reason : Option String
  warn : Option String
  completion : Completion
  taskResults : List TaskResult
deriving DecidableEq

/-- What the host is told. -/
structure ReconcileResponse where
  delta : Delta
  status : StatusPatch

/-- Why a watched resource is not reconciled at all. -/
inductive ReconcileError where
  | spec (id : ResourceId) (error : Wire.DecodeError)
  | run (id : ResourceId) (error : RunError)
deriving DecidableEq

/-- The wording together with the causes behind it, outermost first. -/
def ReconcileError.causes : ReconcileError → List String
  | spec id error => ["decoding run spec of " ++ id.display, error.message]
  | run id error => ("running " ++ id.display) :: error.causes

/-- The response to a failure: no resource and no task. -/
def ReconcileResponse.ofError (e : ReconcileError) : ReconcileResponse where
  delta := Delta.empty
  status :=
    { phase := .error
      reason := some (joinCauses e.causes)
      warn := none
      completion := Completion.zero
      taskResults := [] }

/-- The keys of the tasks whose assertion failed. -/
def failedAsserts (results : List TaskResult) : List String :=
  (results.filter (·.phase == .failed)).map (·.key)

/-- The warning about failed assertions, if there are any. -/
def assertWarning (results : List TaskResult) : Option String :=
  match failedAsserts results with
  | [] => none
  | keys => some ("assert failed: " ++ String.intercalate ", " keys)

/-- The response to a run.  A run that its guard has stopped went well, with a
    warning. -/
def ReconcileResponse.ofOutcome (o : RunOutcome) : ReconcileResponse :=
  let s := o.status
  let (phase, reason, warn) := match s.phase with
    | .online => (StatusPhase.online, none, assertWarning s.taskResults)
    | .skipped => (.online, none, s.reason)
    | .error => (.error, s.message <|> s.reason, assertWarning s.taskResults)
  { delta := o.delta
    status := ⟨phase, reason, warn, s.completion, s.taskResults⟩ }

namespace ReconcileRequest

/-- The tasks in the `spec` of the watched resource; none without one. -/
def runSpec (r : ReconcileRequest) : Except ReconcileError RunSpec :=
  match r.watch.spec? with
  | some d => (RunSpec.decode d).mapError (.spec r.watch.id)
  | none => .ok RunSpec.empty

/-- The run of a request. -/
def runRequest (r : ReconcileRequest) (spec : RunSpec) : RunRequest :=
  let uid := r.watch.uid.getD ""
  ⟨Owner.run uid r.watch.name, Owner.watch uid r.watch.name, spec, r.observed⟩

/-- Reads the tasks of a request and carries out their run. -/
def plan (r : ReconcileRequest) (e : Engine) : Except ReconcileError RunOutcome := do
  let spec ← r.runSpec
  (e.run (r.runRequest spec)).mapError (.run r.watch.id)

end ReconcileRequest

/-- Reconciles a watched resource. -/
def reconcile (e : Engine) (r : ReconcileRequest) : ReconcileResponse :=
  match r.plan e with
  | .ok outcome => .ofOutcome outcome
  | .error error => .ofError error

/-! ### Wire form -/

open Wire

/-- Writes a status. -/
def StatusPatch.encode (s : StatusPatch) : Document :=
  ofParts [("completion", some s.completion.encode), ("phase", some (.str s.phase.name)),
    ("reason", s.reason.map .str),
    ("taskResults",
      if s.taskResults.isEmpty then none else some (.arr (s.taskResults.map TaskResult.encode))),
    ("warn", s.warn.map .str)]

/-- Writes a list of resources. -/
def encodeResources (rs : List Resource) : Document :=
  .arr (rs.map Resource.encode)

/-- Writes a response. -/
def ReconcileResponse.encode (r : ReconcileResponse) : Document :=
  ofParts [("attachments", some (encodeResources r.delta.desired)),
    ("explicitDeletes", some (encodeResources r.delta.explicitDeletes)),
    ("explicitUpdates", some (encodeResources r.delta.explicitUpdates)),
    ("status", some r.status.encode)]

end Reconciler
