import Reconciler.Document.Diff
import Reconciler.Document.Merge
import Reconciler.Plan.Create

namespace Reconciler

/-!
# Updating resources

An update merges a patch into every observed resource that its target selects.
Those that the watch created are kept apart from the others.

* `Merger`, `threeWay` — how a patch is merged, and the usual way;
* `updateOne` — one merged resource;
* `planUpdate` — all of them;
* `UpdatePlan`, `UpdateReport`, `UpdateInfo` — what is returned and what is reported.
-/

/-- A merge of an observed, a last applied and a desired document. -/
abbrev Merger := Document → Document → Document → Except MergeError Document

/-- The three-way merge of objects. -/
def threeWay : Merger := fun observed last desired =>
  match observed, desired with
  | .obj _, .obj _ => .ok (Document.merge observed last desired)
  | .obj _, _ => .error .patchNotObject
  | _, _ => .error .observedNotObject

/-- The address of an updated resource and its difference from before. -/
structure UpdateInfo where
  resource : String
  diff : DiffSummary
deriving DecidableEq

/-- What is reported of an update. -/
structure UpdateReport where
  phase : PlanPhase
  message : String
  desired : Nat
  explicit : Nat
  desiredInfo : List UpdateInfo
  explicitInfo : List UpdateInfo
deriving DecidableEq

/-- The updated resources, those of the watch apart from the others. -/
structure UpdatePlan where
  desired : List Resource
  explicit : List Resource
  report : UpdateReport

/-- An updated resource. -/
structure Updated where
  /-- The watch created the resource. -/
  owned : Bool
  resource : Resource
  info : UpdateInfo

/-- Merges a patch into a resource.  The patch also counts as last applied, so no
    member is withdrawn, and the merged resource must have the same address. -/
def updateOne (merger : Merger) (watch : Owner) (patch : Document) (r : Resource) :
    Except PlanError Updated := do
  let before := r.encode
  let merged ← (merger before patch patch).mapError (.merge r.id)
  let updated ← (Resource.decode merged).mapError (.merge r.id <| .resource ·)
  if updated.id = r.id then
    return ⟨r.createdBy watch, updated, ⟨r.id.display, merged.diff before⟩⟩
  else throw (.identityChanged r.id updated.id)

/-- The entries of updated resources, if the settings list this category. -/
def listUpdates (settings : Settings) (category : Category) (us : List Updated) :
    List UpdateInfo :=
  if settings.categories.contains category then us.map (·.info) else []

/-- What an update of some resources says. -/
def updateMessage (desired explicit : Nat) : String :=
  "Update: " ++ toString desired ++ " desired, " ++ toString explicit ++ " explicit"

/-- The update of no resource. -/
def UpdatePlan.none : UpdatePlan where
  desired := []
  explicit := []
  report :=
    { phase := .skipped
      message := "no eligible resources"
      desired := 0
      explicit := 0
      desiredInfo := []
      explicitInfo := [] }

/-- Merges a patch into the resources that the target selects, in their order. -/
def planUpdate (settings : Settings) (merger : Merger) (watch : Owner) (patch : Document)
    (target : Selector) (observed : List Resource) : Except PlanError UpdatePlan := do
  let selector ← target.compile.mapError .select
  let eligible := observed.filter selector.accepts
  if eligible.isEmpty then return UpdatePlan.none
  let updates ← eligible.mapM (updateOne merger watch patch)
  let desired := updates.filter (·.owned)
  let explicit := updates.filter (!·.owned)
  return {
    desired := desired.map (·.resource)
    explicit := explicit.map (·.resource)
    report :=
      { phase := .online
        message := updateMessage desired.length explicit.length
        desired := desired.length
        explicit := explicit.length
        desiredInfo := listUpdates settings .desiredUpdate desired
        explicitInfo := listUpdates settings .explicitUpdate explicit } }

/-! ### Wire form -/

open Wire

/-- Reads an entry. -/
def UpdateInfo.decode : Decoder UpdateInfo :=
  record "UpdateInfo" <|
    UpdateInfo.mk <$> required "resource" string <*> required "diff" DiffSummary.decode

/-- Writes an entry. -/
def UpdateInfo.encode (i : UpdateInfo) : Document :=
  ofParts [("diff", some i.diff.encode), ("resource", some (.str i.resource))]

/-- Entries, unless there are none. -/
def encodeUpdates (xs : List UpdateInfo) : Option Document :=
  if xs.isEmpty then none else some (.arr (xs.map UpdateInfo.encode))

/-- Reads a report. -/
def UpdateReport.decode : Decoder UpdateReport :=
  record "UpdateReport" <|
    UpdateReport.mk <$> required "phase" (variant PlanPhase.names) <*> required "message" string
      <*> required "desired" count <*> required "explicit" count
      <*> withDefault "desiredInfo" (list UpdateInfo.decode) []
      <*> withDefault "explicitInfo" (list UpdateInfo.decode) []

/-- Writes a report without its empty lists. -/
def UpdateReport.encode (r : UpdateReport) : Document :=
  ofParts [("desired", some (.nat r.desired)), ("desiredInfo", encodeUpdates r.desiredInfo),
    ("explicit", some (.nat r.explicit)), ("explicitInfo", encodeUpdates r.explicitInfo),
    ("message", some (.str r.message)), ("phase", some (.str r.phase.name))]

end Reconciler
