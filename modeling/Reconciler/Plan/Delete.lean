import Reconciler.Plan.Create

namespace Reconciler

/-!
# Deleting resources

A deletion sorts the observed resources into three parts: those that its template
does not mean, those that the watch created, which the host drops by itself, and
the others, which it must be told to delete.

* `DeleteTarget` — what a template means to delete;
* `DeleteRole`, `DeleteTarget.roleOf` — the parts;
* `planDelete` — the resources to be deleted;
* `DeletePlan`, `DeleteReport` — what is returned and what is reported.
-/

/-- What is reported of a deletion: the sizes of the parts, and the addresses in
    those that the settings list. -/
structure DeleteReport where
  phase : PlanPhase
  message : String
  skipped : Nat
  desired : Nat
  explicit : Nat
  skippedInfo : List String
  desiredInfo : List String
  explicitInfo : List String
deriving DecidableEq

/-- The resources that the host must be told to delete. -/
structure DeletePlan where
  explicit : List Resource
  report : DeleteReport

/-- The resources that a template means to delete. -/
structure DeleteTarget where
  apiVersion : String
  kind : String
  /-- Any namespace, if none is given. -/
  namespaceName : Option String
  /-- Any name, if none is given. -/
  baseName : Option String
deriving DecidableEq

namespace DeleteTarget

/-- What a template means. -/
def ofTemplate (r : Resource) : DeleteTarget :=
  ⟨r.apiVersion, r.kind, r.namespaceName, r.baseName?⟩

/-- A name is meant when it is the base name or begins with it and a separator. -/
def coversName (separator base name : String) : Bool :=
  name == base || (base ++ separator).toList.isPrefixOf name.toList

/-- A resource is meant by its type, its namespace and its name. -/
def covers (t : DeleteTarget) (separator : String) (r : Resource) : Bool :=
  r.apiVersion == t.apiVersion && r.kind == t.kind &&
    (match t.namespaceName with
      | some ns => r.namespaceName == some ns
      | none => true) &&
    match t.baseName with
    | some base => coversName separator base r.name
    | none => true

end DeleteTarget

/-- The part of a deletion that an observed resource belongs to. -/
inductive DeleteRole where
  | skipped
  | desired
  | explicit
deriving DecidableEq, Repr

/-- A resource that is not meant is skipped; the rest is told apart by its creator. -/
def DeleteTarget.roleOf (t : DeleteTarget) (separator : String) (watch : Owner)
    (r : Resource) : DeleteRole :=
  if t.covers separator r then
    if r.createdBy watch then .desired else .explicit
  else .skipped

/-- The addresses of resources, if the settings list this category. -/
def listIds (settings : Settings) (category : Category) (rs : List Resource) : List String :=
  if settings.categories.contains category then rs.map (·.id.display) else []

/-- What a deletion says. -/
def deleteMessage (kind : String) (desired explicit : Nat) : String :=
  if desired + explicit = 0 then "Delete " ++ kind ++ ": no matching resources"
  else
    "Delete " ++ kind ++ ": " ++ toString desired ++ " desired, " ++ toString explicit ++
      " explicit"

/-- Sorts the observed resources into the parts of a deletion. -/
def planDelete (settings : Settings) (watch : Owner) (template : Document)
    (observed : List Resource) : Except PlanError DeletePlan := do
  let r ← parseTemplate template
  let role := (DeleteTarget.ofTemplate r).roleOf settings.separator watch
  let skipped := observed.filter (role · = .skipped)
  let desired := observed.filter (role · = .desired)
  let explicit := observed.filter (role · = .explicit)
  return {
    explicit
    report :=
      { phase := if desired.length + explicit.length = 0 then .skipped else .online
        message := deleteMessage r.kind desired.length explicit.length
        skipped := skipped.length
        desired := desired.length
        explicit := explicit.length
        skippedInfo := listIds settings .skip skipped
        desiredInfo := listIds settings .desiredDelete desired
        explicitInfo := listIds settings .explicitDelete explicit } }

/-! ### Wire form -/

open Wire

/-- Reads a report. -/
def DeleteReport.decode : Decoder DeleteReport :=
  record "DeleteReport" <|
    DeleteReport.mk <$> required "phase" (variant PlanPhase.names) <*> required "message" string
      <*> required "skipped" count <*> required "desired" count <*> required "explicit" count
      <*> withDefault "skippedInfo" (list string) [] <*> withDefault "desiredInfo" (list string) []
      <*> withDefault "explicitInfo" (list string) []

/-- Writes a report without its empty lists. -/
def DeleteReport.encode (r : DeleteReport) : Document :=
  ofParts [("desired", some (.nat r.desired)), ("desiredInfo", encodeTexts r.desiredInfo),
    ("explicit", some (.nat r.explicit)), ("explicitInfo", encodeTexts r.explicitInfo),
    ("message", some (.str r.message)), ("phase", some (.str r.phase.name)),
    ("skipped", some (.nat r.skipped)), ("skippedInfo", encodeTexts r.skippedInfo)]

end Reconciler
