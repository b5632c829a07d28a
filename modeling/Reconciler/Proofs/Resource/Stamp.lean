import Reconciler.Proofs.Resource.Provenance

namespace Reconciler

/-!
# Stamps

A stamp writes a provenance into the annotations of a resource, over those that are there.  It is
read back as it was written when there is a uid to mark the resource with, and when no annotation
of an earlier stamp says what this one leaves open.

* `Provenance.names` — the annotations that a stamp sets;
* `Provenance.Recordable`, `Provenance.Complete` — the provenances that annotations can record,
  and those that leave nothing open;
* `Provenance.ofAnnotations?_eq_some_iff` — what is read from annotations that a stamp was laid
  over;
* `Resource.StampedFrom` — what a stamp changes and what it keeps;
* `Resource.withProvenance_withProvenance` — the second of two stamps;
* `Provenance.survives_annotations` — all of this, in annotations alone and on a resource.
-/

namespace Provenance

variable {p : Provenance} {t : Table String String} {old : String → Option String}

/-! ### Annotations -/

/-- The annotations that a stamp sets. -/
def names : List String := [createdDueToWatch, watchName, runUid, runName, taskKeyName]

/-- A watch with a uid, and a run or none: what annotations can tell from other provenances. -/
structure Recordable (p : Provenance) : Prop where
  watch : p.watch.kind = .watch
  uid : p.watch.uid ≠ ""
  run : ∀ run, p.run = some run → run.kind = .run

/-- A watch with a uid, a run and the key of a task: all that annotations record. -/
structure Complete (p : Provenance) : Prop where
  watch : p.watch.kind = .watch
  uid : p.watch.uid ≠ ""
  run : ∃ run, p.run = some run ∧ run.kind = .run
  taskKey : ∃ key, p.taskKey = some key

/-- A complete provenance can be recorded. -/
theorem Complete.recordable (h : p.Complete) : p.Recordable := by
  obtain ⟨run, hrun, hkind⟩ := h.run
  refine ⟨h.watch, h.uid, fun run' hrun' => ?_⟩
  obtain rfl := Option.some.inj (hrun.symm.trans hrun')
  exact hkind

/-- A stamp sets no other annotations. -/
theorem keys_annotations_subset (p : Provenance) : p.annotations.map Prod.fst ⊆ names := by
  obtain ⟨watch, run, taskKey⟩ := p
  cases run <;> cases taskKey <;> simp [annotations, names]

/-- A provenance with a run and a task sets every annotation. -/
theorem names_subset (hrun : p.run.isSome = true) (hkey : p.taskKey.isSome = true) :
    names ⊆ p.annotations.map Prod.fst := by
  obtain ⟨watch, run | run, key | key⟩ := p
  · cases hrun
  · cases hrun
  · cases hkey
  · simp [annotations, names]

/-- The value that a stamp has for each of its annotations. -/
theorem lookup_annotations (p : Provenance) :
    p.annotations.reverse.lookup createdDueToWatch = some p.watch.uid ∧
      p.annotations.reverse.lookup watchName = some p.watch.name ∧
      p.annotations.reverse.lookup runUid = p.run.map (·.uid) ∧
      p.annotations.reverse.lookup runName = p.run.map (·.name) ∧
      p.annotations.reverse.lookup taskKeyName = p.taskKey := by
  obtain ⟨watch, run, taskKey⟩ := p
  cases run <;> cases taskKey <;> exact ⟨rfl, rfl, rfl, rfl, rfl⟩

/-- No annotation of a stamp is set twice, so each of them is found. -/
theorem lookup_of_mem_annotations {e : String × String} (he : e ∈ p.annotations) :
    p.annotations.reverse.lookup e.1 = some e.2 := by
  obtain ⟨huid, hname, hrunUid, hrunName, hkey⟩ := p.lookup_annotations
  rw [annotations, List.mem_append, List.mem_append, List.mem_pair] at he
  -- The two annotations of the watch, those of a run if there is one, and that of a task.
  obtain ((rfl | rfl) | hrun) | htask := he
  · exact huid
  · exact hname
  · cases hp : p.run with
    | none => simp [hp] at hrun
    | some run =>
      rw [hp] at hrun hrunUid hrunName
      obtain rfl | rfl := List.mem_pair.mp hrun
      · exact hrunUid
      · exact hrunName
  · cases hp : p.taskKey with
    | none => simp [hp] at htask
    | some key =>
      rw [hp] at htask hkey
      obtain rfl := List.mem_singleton.mp htask
      exact hkey

/-- Any other key finds nothing in a stamp. -/
theorem lookup_annotations_eq_none {k : String} (hk : k ∉ p.annotations.map Prod.fst) :
    p.annotations.reverse.lookup k = none := by
  rw [List.lookup_eq_none_iff]
  intro e he
  rw [bne_iff_ne]
  rintro rfl
  exact hk (List.mem_map_of_mem (List.mem_reverse.mp he))

/-! ### What is read back -/

/-- What is read from the annotations of a stamp that was laid over old ones: where the stamp says
    nothing, the old ones do. -/
theorem ofAnnotations?_of_laid (h : ∀ k, t.get? k = (p.annotations.reverse.lookup k).or (old k)) :
    ofAnnotations? t =
      if p.watch.uid = "" then none
      else
        some
          { watch := Owner.watch p.watch.uid p.watch.name
            run := ((p.run.map (·.uid)).or (old runUid)).map fun uid =>
              Owner.run uid (((p.run.map (·.name)).or (old runName)).getD "")
            taskKey := p.taskKey.or (old taskKeyName) } := by
  obtain ⟨huid, hname, hrunUid, hrunName, hkey⟩ := p.lookup_annotations
  simp only [ofAnnotations?, h, huid, hname, hrunUid, hrunName, hkey, Option.some_or,
    Option.getD_some, String.isEmpty_iff]

/-- The run is read back, unless none was written and an old one shows. -/
theorem run_eq_iff {run : Option Owner} {oldUid oldName : Option String} :
    (((run.map (·.uid)).or oldUid).map fun uid =>
        Owner.run uid (((run.map (·.name)).or oldName).getD "")) = run ↔
      (∀ r, run = some r → r.kind = .run) ∧ (run = none → oldUid = none) := by
  cases run with
  | none => simp
  | some r =>
    obtain ⟨kind, uid, name⟩ := r
    simp [Owner.run, eq_comm]

/-- A provenance is read back when annotations can record it, and the old annotations say nothing
    that it leaves open. -/
theorem ofAnnotations?_eq_some_iff
    (h : ∀ k, t.get? k = (p.annotations.reverse.lookup k).or (old k)) :
    ofAnnotations? t = some p ↔
      p.Recordable ∧ (p.run = none → old runUid = none) ∧
        (p.taskKey = none → old taskKeyName = none) := by
  rw [ofAnnotations?_of_laid h]
  obtain ⟨⟨kind, uid, name⟩, run, taskKey⟩ := p
  dsimp only
  by_cases huid : uid = ""
  · rw [if_pos huid]
    exact iff_of_false nofun fun hp => hp.1.uid huid
  · -- What is read is always a watch.
    have hwatch : Owner.watch uid name = ⟨kind, uid, name⟩ ↔ kind = .watch := by
      simp [Owner.watch, eq_comm]
    have hkey : taskKey.or (old taskKeyName) = taskKey ↔
        (taskKey = none → old taskKeyName = none) := by
      cases taskKey <;> simp
    rw [if_neg huid, Option.some.injEq, mk.injEq, hwatch, run_eq_iff, hkey]
    constructor
    · rintro ⟨hkind, ⟨hrun, hold⟩, htask⟩
      exact ⟨⟨hkind, huid, hrun⟩, hold, htask⟩
    · rintro ⟨hp, hold, htask⟩
      exact ⟨hp.watch, ⟨hp.run, hold⟩, htask⟩

/-- Only what annotations can record is read from them. -/
theorem recordable_of_ofAnnotations? (h : ofAnnotations? t = some p) : p.Recordable := by
  unfold ofAnnotations? at h
  split at h
  · cases h
  · next uid _ =>
    split at h
    · cases h
    · next huid =>
      obtain rfl := Option.some.inj h
      refine ⟨rfl, fun hempty => huid ?_, fun run hrun => ?_⟩
      · rw [String.isEmpty_iff]
        exact hempty
      · obtain ⟨runUid, -, rfl⟩ := Option.map_eq_some_iff.mp hrun
        rfl

/-- A table of the annotations of a stamp holds them and nothing else. -/
theorem get?_ofList_annotations (p : Provenance) (k : String) :
    (Table.ofList p.annotations).get? k = (p.annotations.reverse.lookup k).or none := by
  rw [Table.get?_ofList, Option.or_none]

/-- Annotations of its own record every provenance that annotations can record. -/
theorem ofAnnotations?_annotations :
    ofAnnotations? (Table.ofList p.annotations) = some p ↔ p.Recordable := by
  rw [ofAnnotations?_eq_some_iff p.get?_ofList_annotations, and_iff_left ⟨fun _ => rfl, fun _ => rfl⟩]

end Provenance

namespace Resource

variable {r : Resource} {p q : Provenance}

/-! ### Stamped resources -/

/-- A stamp is read from the annotations that it has made. -/
theorem provenance?_withProvenance_eq (r : Resource) (p : Provenance) :
    ∃ t, (r.withProvenance p).provenance? = Provenance.ofAnnotations? t ∧
      ∀ k, t.get? k = (p.annotations.reverse.lookup k).or (r.annotation? k) :=
  ⟨_, rfl, annotation?_withProvenance r p⟩

/-- A stamp with a run and a task key is recorded as it is, its owners as a watch and a run. -/
theorem provenance?_withProvenance (r : Resource) {watch run : Owner} {key : String}
    (huid : watch.uid ≠ "") :
    (r.withProvenance ⟨watch, some run, some key⟩).provenance? =
      some ⟨Owner.watch watch.uid watch.name, some (Owner.run run.uid run.name), some key⟩ := by
  obtain ⟨t, hprovenance, ht⟩ := r.provenance?_withProvenance_eq ⟨watch, some run, some key⟩
  rw [hprovenance, Provenance.ofAnnotations?_of_laid ht, if_neg huid]
  rfl

/-- The provenance that is read from a resource after a stamp. -/
theorem provenance?_withProvenance_eq_some_iff :
    (r.withProvenance p).provenance? = some p ↔
      p.Recordable ∧ (p.run = none → r.annotation? Provenance.runUid = none) ∧
        (p.taskKey = none → r.annotation? Provenance.taskKeyName = none) := by
  obtain ⟨t, hprovenance, ht⟩ := r.provenance?_withProvenance_eq p
  rw [hprovenance, Provenance.ofAnnotations?_eq_some_iff ht]

/-- A complete provenance is recorded as it is, whatever was recorded before. -/
theorem provenance?_withProvenance_of_complete (r : Resource) (hp : p.Complete) :
    (r.withProvenance p).provenance? = some p := by
  obtain ⟨run, hrun, -⟩ := hp.run
  obtain ⟨key, hkey⟩ := hp.taskKey
  exact provenance?_withProvenance_eq_some_iff.mpr
    ⟨hp.recordable, by simp [hrun], by simp [hkey]⟩

/-- A stamp leaves all other annotations. -/
theorem annotation?_withProvenance_of_not_mem (r : Resource) {key : String}
    (hkey : key ∉ Provenance.names) :
    (r.withProvenance p).annotation? key = r.annotation? key := by
  have hunset := Provenance.lookup_annotations_eq_none fun h => hkey (p.keys_annotations_subset h)
  rw [annotation?_withProvenance, hunset, Option.none_or]

/-- The resource `x` is the resource `r` with the annotations of the provenance set. -/
structure StampedFrom (x r : Resource) (p : Provenance) : Prop where
  set : ∀ e ∈ p.annotations, x.annotation? e.1 = some e.2
  kept : ∀ k, k ∉ p.annotations.map Prod.fst → x.annotation? k = r.annotation? k
  rest : { x with metadata := { x.metadata with annotations := r.metadata.annotations } } = r

/-- A stamp changes annotations, and only those that it sets. -/
theorem stampedFrom_withProvenance (r : Resource) (p : Provenance) :
    (r.withProvenance p).StampedFrom r p where
  set := fun e he => by
    rw [annotation?_withProvenance, Provenance.lookup_of_mem_annotations he, Option.some_or]
  kept := fun k hk => by
    rw [annotation?_withProvenance, Provenance.lookup_annotations_eq_none hk, Option.none_or]
  rest := rfl

/-- Nothing of an earlier stamp shows through one with a run and a task. -/
theorem withProvenance_withProvenance (r : Resource) (p : Provenance)
    (hrun : q.run.isSome = true) (hkey : q.taskKey.isSome = true) :
    (r.withProvenance p).withProvenance q = r.withProvenance q := by
  show r.withAnnotations (q.annotations.foldl (fun t e => t.insert e.1 e.2)
      (p.annotations.foldl (fun t e => t.insert e.1 e.2) r.annotations)) =
    r.withAnnotations (q.annotations.foldl (fun t e => t.insert e.1 e.2) r.annotations)
  refine congrArg r.withAnnotations (Table.ext fun k => ?_)
  rw [Table.get?_foldl_insert, Table.get?_foldl_insert, Table.get?_foldl_insert]
  by_cases hk : k ∈ q.annotations.map Prod.fst
  · obtain ⟨e, he, rfl⟩ := List.mem_map.mp hk
    rw [Provenance.lookup_of_mem_annotations he, Option.some_or, Option.some_or]
  · -- What the later stamp leaves open, the earlier one has not set either.
    have hunset : p.annotations.reverse.lookup k = none :=
      Provenance.lookup_annotations_eq_none fun h =>
        hk (Provenance.names_subset hrun hkey (p.keys_annotations_subset h))
    rw [hunset, Option.none_or]

end Resource

/-- Annotations of its own record a provenance just when it is one of a watch with a uid, and its
    run, if it has one, is a run.  A stamp on a resource records it when it leaves nothing open, or
    when the resource has no annotation of an earlier stamp; it sets its annotations and keeps the
    rest of the resource, and the next stamp that leaves nothing open takes its place.  What is
    read from any annotations is read again from annotations of its own. -/
theorem Provenance.survives_annotations (p q : Provenance) (r : Resource)
    (t : Table String String) :
    (ofAnnotations? (Table.ofList p.annotations) = some p ↔ p.Recordable) ∧
      (p.Recordable →
        (p.run.isSome = true ∧ p.taskKey.isSome = true ∨
            ∀ k ∈ names, r.annotation? k = none) →
          (r.withProvenance p).provenance? = some p) ∧
      (r.withProvenance p).StampedFrom r p ∧
      (q.run.isSome = true → q.taskKey.isSome = true →
        (r.withProvenance p).withProvenance q = r.withProvenance q) ∧
      (ofAnnotations? t = some p → ofAnnotations? (Table.ofList p.annotations) = some p) := by
  refine ⟨ofAnnotations?_annotations, fun hp hopen => ?stamp, r.stampedFrom_withProvenance p,
    r.withProvenance_withProvenance p,
    fun h => ofAnnotations?_annotations.mpr (recordable_of_ofAnnotations? h)⟩
  case stamp =>
    refine Resource.provenance?_withProvenance_eq_some_iff.mpr ⟨hp, fun hrun => ?_, fun hkey => ?_⟩
    · -- The stamp sets the annotations of a run itself, or there are none of an earlier one.
      obtain ⟨hsome, -⟩ | hnone := hopen
      · rw [hrun] at hsome
        cases hsome
      · exact hnone runUid (by decide)
    · obtain ⟨-, hsome⟩ | hnone := hopen
      · rw [hkey] at hsome
        cases hsome
      · exact hnone taskKeyName (by decide)

namespace NotedConfig

/-- A config map with an annotation of its own. -/
def resource : Resource :=
  ⟨"v1", "ConfigMap",
    { Metadata.empty with
      annotations := some ⟨[("example.com/note", "kept")], by decide⟩
      name := some "cfg" },
    []⟩

/-- A provenance that leaves the run and the task open. -/
def watchOnly : Provenance := ⟨Owner.watch "w-uid" "w", none, none⟩

/-- A provenance that leaves nothing open. -/
def full : Provenance :=
  ⟨Owner.watch "w-uid" "w", some (Owner.run "r-uid" "r"), some "create"⟩

/-- Annotations with the name of a run that has no uid. -/
def namedRun : Table String String :=
  ⟨[(Provenance.createdDueToWatch, "w-uid"), (Provenance.runName, "r"),
    (Provenance.watchName, "w")], by decide⟩

end NotedConfig

open NotedConfig in
/-- The first stamp is read back although it leaves two things open, for there was none before it.
    The second one takes its place.  The name of a run alone records no run. -/
theorem Provenance.survives_annotations_config :
    watchOnly.Recordable ∧ (∀ k ∈ names, resource.annotation? k = none) ∧
      (resource.withProvenance watchOnly).provenance? = some watchOnly ∧
      (resource.withProvenance watchOnly).annotation? "example.com/note" = some "kept" ∧
      (full.run.isSome = true ∧ full.taskKey.isSome = true ∧
        (resource.withProvenance watchOnly).withProvenance full =
          resource.withProvenance full) ∧
      ofAnnotations? namedRun = some watchOnly ∧
        ofAnnotations? (Table.ofList watchOnly.annotations) = some watchOnly := by
  have hp : watchOnly.Recordable := ⟨rfl, by decide, nofun⟩
  have hunmarked : ∀ k ∈ names, resource.annotation? k = none := by decide
  have hread : ofAnnotations? namedRun = some watchOnly := by decide
  obtain ⟨-, hstamp, hframe, hagain, hannotations⟩ :=
    Provenance.survives_annotations watchOnly full resource namedRun
  exact ⟨hp, hunmarked, hstamp hp (.inr hunmarked), hframe.kept _ (by decide),
    ⟨rfl, rfl, hagain rfl rfl⟩, hread, hannotations hread⟩

end Reconciler
