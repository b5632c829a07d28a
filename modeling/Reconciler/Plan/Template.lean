import Reconciler.Selector.Basic

namespace Reconciler

/-!
# Templates and the faults of plans

A template is the document of a resource to be created or deleted.

* `PlanError` — why a plan cannot be made;
* `MergeError` — why a patch does not merge into a resource;
* `parseTemplate` — the resource that a template describes;
* `Resource.baseName?` — the name from which the names of replicas are built;
* `isDeleteIntent` — whether a template asks for a deletion.
-/

/-- Why a patch does not merge into a resource. -/
inductive MergeError where
  | observedNotObject
  | patchNotObject
  /-- The merged document is no resource. -/
  | resource (error : ResourceError)
  /-- A failure of a host's own merge, by its wordings, outermost first. -/
  | host (causes : List String)
deriving DecidableEq, Repr

/-- The wording together with the causes behind it, outermost first. -/
def MergeError.causes : MergeError → List String
  | observedNotObject => ["observed document is not an object"]
  | patchNotObject => ["desired patch is not an object"]
  | resource error => error.causes
  | host causes => causes

/-- Why a plan cannot be made. -/
inductive PlanError where
  | emptyTemplate
  | missingApiVersion
  | missingKind
  | missingName (kind : String)
  | zeroReplicas
  | template (error : ResourceError)
  | select (error : SelectError)
  | merge (id : ResourceId) (error : MergeError)
  | identityChanged (id merged : ResourceId)
deriving DecidableEq

namespace PlanError

/-- The wording of a cause. -/
def message : PlanError → String
  | emptyTemplate => "template is empty"
  | missingApiVersion => "template missing apiVersion"
  | missingKind => "template missing kind"
  | missingName kind =>
    "template " ++ kind ++ " has neither metadata.name nor metadata.generateName"
  | zeroReplicas => "create needs at least one replica"
  | template error => "decoding template: " ++ error.message
  | select error => error.message
  | merge id error => "merging " ++ id.display ++ ": " ++ joinCauses error.causes
  | identityChanged id merged =>
    "merge changed identity of " ++ id.display ++ " to " ++ merged.display

end PlanError

/-- The outcome of a plan. -/
inductive PlanPhase where
  | online
  | skipped
deriving DecidableEq, Repr

/-- The phases with their names. -/
def PlanPhase.names : List (String × PlanPhase) :=
  [("Online", online), ("Skipped", skipped)]

/-- The name of a phase. -/
def PlanPhase.name : PlanPhase → String
  | online => "Online"
  | skipped => "Skipped"

/-- A template without any content. -/
def isEmptyTemplate : Document → Bool
  | .null => true
  | .obj members => members.isEmpty
  | _ => false

/-- The resource that a template describes; it needs an API version and a kind. -/
def parseTemplate (template : Document) : Except PlanError Resource :=
  if isEmptyTemplate template then .error .emptyTemplate
  else
    match Resource.decode template with
    | .error e => .error (.template e)
    | .ok r =>
      if r.apiVersion.isEmpty then .error .missingApiVersion
      else if r.kind.isEmpty then .error .missingKind
      else .ok r

/-- The generated name, or else the name; empty ones count as missing. -/
def Resource.baseName? (r : Resource) : Option String :=
  Resource.unlessEmpty r.metadata.generateName <|> Resource.unlessEmpty r.metadata.name

/-- A template is to be deleted when it asks for no replica, or when its `spec` is
    there and null. -/
def isDeleteIntent (template : Document) (replicas : Option UInt32) : Bool :=
  replicas == some 0 ||
    match template.member? "spec" with
    | some d => d.isNull
    | none => false

end Reconciler
