import Reconciler.Wire.Record

namespace Reconciler

/-!
# Provenance

The watch, the run and the task that brought a resource into being are recorded
in its annotations.  The annotation of the watch's uid marks a created resource;
the others may be missing.

* `Owner` — a watch or a run;
* `Provenance` — who created a resource;
* `Provenance.annotations`, `Provenance.ofAnnotations?` — the annotations that
  record it, and what annotations record.
-/

/-- The two kinds of owner. -/
inductive OwnerKind where
  | run
  | watch
deriving DecidableEq, Repr

/-- A watch or a run. -/
structure Owner where
  kind : OwnerKind
  uid : String
  name : String
deriving DecidableEq, Repr

/-- The watch with this uid and name. -/
def Owner.watch (uid name : String) : Owner := ⟨.watch, uid, name⟩

/-- The run with this uid and name. -/
def Owner.run (uid name : String) : Owner := ⟨.run, uid, name⟩

/-- Who created a resource. -/
structure Provenance where
  watch : Owner
  run : Option Owner
  taskKey : Option String
deriving DecidableEq, Repr

namespace Provenance

/-! ### Annotations -/

/-- The marker of a created resource; its value is the uid of the watch. -/
def createdDueToWatch : String := "converge.dev/created-due-to-watch"

/-- The annotation of the name of the watch. -/
def watchName : String := "converge.dev/watch-name"

/-- The annotation of the uid of the run. -/
def runUid : String := "converge.dev/run-uid"

/-- The annotation of the name of the run. -/
def runName : String := "converge.dev/run-name"

/-- The annotation of the key of the task. -/
def taskKeyName : String := "converge.dev/task-key"

/-- The annotations that record a provenance, the marker first. -/
def annotations (p : Provenance) : List (String × String) :=
  [(createdDueToWatch, p.watch.uid), (watchName, p.watch.name)] ++
    (match p.run with
      | some run => [(runUid, run.uid), (runName, run.name)]
      | none => []) ++
    (match p.taskKey with
      | some key => [(taskKeyName, key)]
      | none => [])

/-- The provenance that annotations record: none without a marker that is not
    empty, and no run without its uid.  Missing names are empty. -/
def ofAnnotations? (annotations : Table String String) : Option Provenance :=
  match annotations.get? createdDueToWatch with
  | none => none
  | some uid =>
    if uid.isEmpty then none
    else
      some
        { watch := Owner.watch uid ((annotations.get? watchName).getD "")
          run := (annotations.get? runUid).map fun uid =>
            Owner.run uid ((annotations.get? runName).getD "")
          taskKey := annotations.get? taskKeyName }

end Provenance

/-! ### Wire form -/

open Wire

/-- The names of the kinds of owner. -/
def OwnerKind.names : List (String × OwnerKind) :=
  [("Run", run), ("Watch", watch)]

/-- The name of a kind of owner. -/
def OwnerKind.name : OwnerKind → String
  | run => "Run"
  | watch => "Watch"

/-- Writes an owner. -/
def Owner.encode (o : Owner) : Document :=
  ofParts [("kind", some (.str o.kind.name)), ("name", some (.str o.name)),
    ("uid", some (.str o.uid))]

/-- Reads an owner. -/
def Owner.decode : Decoder Owner :=
  record "OwnerRef" <|
    Owner.mk <$> required "kind" (variant OwnerKind.names) <*> required "uid" string
      <*> required "name" string

/-- Writes a provenance; what it does not say is null. -/
def Provenance.encode (p : Provenance) : Document :=
  ofParts [("run", some (orNull Owner.encode p.run)),
    ("task_key", some (orNull Document.str p.taskKey)), ("watch", some p.watch.encode)]

/-- Reads a provenance. -/
def Provenance.decode : Decoder Provenance :=
  record "Provenance" <|
    Provenance.mk <$> required "watch" Owner.decode <*> omittableByName "run" Owner.decode
      <*> omittableByName "task_key" string

end Reconciler
