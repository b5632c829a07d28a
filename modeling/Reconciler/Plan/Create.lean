import Reconciler.Plan.Template
import Reconciler.Settings

namespace Reconciler

/-!
# Creating resources

* `replicaNames` — the names of the replicas;
* `planCreate` — the resources that a template asks for;
* `CreatePlan`, `CreateReport` — what is returned and what is reported.
-/

/-- What is reported of a creation. -/
structure CreateReport where
  phase : PlanPhase
  message : String
  /-- The addresses of the created resources, if the settings list them. -/
  created : List String
deriving DecidableEq

/-- The resources to be created. -/
structure CreatePlan where
  desired : List Resource
  report : CreateReport

/-- A single replica has the base name; several have an index after it, from zero. -/
def replicaNames (base separator : String) (replicas : Nat) : List String :=
  if replicas = 1 then [base]
  else (List.range replicas).map fun i => base ++ separator ++ toString i

/-- What a creation of `replicas` resources of this kind says. -/
def createMessage (kind base separator : String) (replicas : Nat) : String :=
  if replicas = 1 then "Create " ++ kind ++ " " ++ base
  else "Create " ++ kind ++ " " ++ base ++ separator ++ "[0.." ++ toString (replicas - 1) ++ "]"

/-- The replicas of a template, each with its own name and with the provenance in
    its annotations. -/
def planCreate (settings : Settings) (provenance : Provenance) (template : Document)
    (replicas : UInt32) : Except PlanError CreatePlan := do
  if replicas = 0 then throw .zeroReplicas
  let r ← parseTemplate template
  match r.baseName? with
  | none => throw (.missingName r.kind)
  | some base =>
    let unnamed := { r with metadata := { r.metadata with generateName := none } }
    let stamped := unnamed.withProvenance provenance
    let desired := (replicaNames base settings.separator replicas.toNat).map stamped.withName
    let created :=
      if settings.categories.contains .create then desired.map (·.id.display) else []
    return {
      desired
      report :=
        { phase := .online
          message := createMessage r.kind base settings.separator replicas.toNat
          created } }

/-! ### Wire form -/

open Wire

/-- Reads a report. -/
def CreateReport.decode : Decoder CreateReport :=
  record "CreateReport" <|
    CreateReport.mk <$> required "phase" (variant PlanPhase.names) <*> required "message" string
      <*> withDefault "created" (list string) []

/-- Writes a report. -/
def CreateReport.encode (r : CreateReport) : Document :=
  ofParts [("created", encodeTexts r.created), ("message", some (.str r.message)),
    ("phase", some (.str r.phase.name))]

end Reconciler
