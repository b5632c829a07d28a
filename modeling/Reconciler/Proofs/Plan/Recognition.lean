import Reconciler.Proofs.Plan.Template

namespace Reconciler

/-!
# What a deletion recognises

A deletion is planned from a template alone, and yet it must find what a creation has left
in an earlier pass, whatever the number of replicas was.  It finds them by their names,
which all begin with the base name, and it takes them for those of the watch by their marker.

* `Resource.StandsFor` — an observed resource at the address of another, with its marker;
* `DeleteTarget.covers_iff` — which resources a template means;
* `DeleteTarget.covers_of_planCreate` — it means all of its replicas;
* `planDelete_recognises_replicas` — no later deletion tells the host to delete them.
-/

/-- The resource is observed where `c` was created, under the marker of `c`. -/
def Resource.StandsFor (x c : Resource) : Prop :=
  (x.apiVersion = c.apiVersion ∧ x.kind = c.kind ∧ x.namespaceName = c.namespaceName ∧
      x.name = c.name) ∧
    x.annotation? Provenance.createdDueToWatch = c.annotation? Provenance.createdDueToWatch

/-! ### Names -/

/-- A base name covers itself and every name that goes on after it with the separator. -/
theorem DeleteTarget.coversName_eq_true {separator base name : String} :
    coversName separator base name = true ↔
      name = base ∨ ∃ rest, name = base ++ separator ++ rest := by
  rw [coversName, Bool.or_eq_true, beq_iff_eq, List.isPrefixOf_iff_prefix]
  refine or_congr_right ⟨?_, ?_⟩
  · rintro ⟨rest, hrest⟩
    refine ⟨String.ofList rest, String.toList_inj.mp ?_⟩
    rw [String.toList_append, String.toList_ofList, hrest]
  · rintro ⟨rest, rfl⟩
    rw [String.toList_append (s := base ++ separator)]
    exact List.prefix_append _ _

/-- A single replica has the base name itself, and all others go on after the separator. -/
theorem DeleteTarget.coversName_of_mem_replicaNames {base separator name : String} {replicas : Nat}
    (h : name ∈ replicaNames base separator replicas) :
    coversName separator base name = true := by
  rw [coversName_eq_true]
  rw [replicaNames] at h
  split at h
  · exact .inl (List.mem_singleton.mp h)
  · obtain ⟨i, -, rfl⟩ := List.mem_map.mp h
    exact .inr ⟨toString i, rfl⟩

/-! ### Targets -/

/-- The target of a template is made from its type and its metadata. -/
theorem DeleteTarget.ofTemplate_congr {r r' : Resource} (hversion : r'.apiVersion = r.apiVersion)
    (hkind : r'.kind = r.kind) (hmetadata : r'.metadata = r.metadata) :
    ofTemplate r' = ofTemplate r := by
  simp only [ofTemplate, Resource.namespaceName, Resource.baseName?, hversion, hkind, hmetadata]

/-- A target asks for its type, for its namespace and base name where it has one, and for
    nothing else. -/
theorem DeleteTarget.covers_iff {t : DeleteTarget} {separator : String} {x : Resource} :
    t.covers separator x = true ↔
      x.apiVersion = t.apiVersion ∧ x.kind = t.kind ∧
        (∀ ns, t.namespaceName = some ns → x.namespaceName = some ns) ∧
        ∀ base, t.baseName = some base → coversName separator base x.name = true := by
  rw [covers]
  cases t.namespaceName <;> cases t.baseName <;> simp [and_assoc]

/-- A resource that stands for another one is meant like it. -/
theorem DeleteTarget.covers_of_standsFor {t : DeleteTarget} {separator : String} {x c : Resource}
    (h : x.StandsFor c) (hc : t.covers separator c = true) : t.covers separator x = true := by
  obtain ⟨⟨hversion, hkind, hnamespace, hname⟩, -⟩ := h
  rw [covers_iff] at hc ⊢
  rw [hversion, hkind, hnamespace, hname]
  exact hc

/-- A resource belongs to the watches of the uid that its marker names. -/
theorem Resource.StandsFor.createdBy {x c : Resource} {watch watch' : Owner} (h : x.StandsFor c)
    (hc : c.createdBy watch = true) (huid : watch'.uid = watch.uid) :
    x.createdBy watch' = true := by
  rw [createdBy_iff, huid, h.2]
  exact createdBy_iff.mp hc

/-! ### Replicas -/

section Replicas

variable {settings : Settings} {provenance : Provenance} {template : Document}
  {replicas : UInt32} {plan : CreatePlan} {c : Resource}

/-- A template means all of its replicas: they have its type and its namespace, and names
    made from its base name. -/
theorem DeleteTarget.covers_of_planCreate
    (h : planCreate settings provenance template replicas = .ok plan) (hc : c ∈ plan.desired)
    {r : Resource} (hr : parseTemplate template = .ok r) :
    (ofTemplate r).covers settings.separator c = true := by
  obtain ⟨-, r', base, hr', hbase, hdesired, -⟩ := planCreate_eq_ok.mp h
  obtain rfl := ok_unique hr hr'
  rw [hdesired] at hc
  obtain ⟨name, hname, rfl⟩ := List.mem_map.mp hc
  -- The stamp changes the annotations and the generated name, and no target looks at these.
  refine covers_iff.mpr ⟨rfl, rfl, fun ns hns => hns, fun base' hbase' => ?_⟩
  obtain rfl : base = base' := Option.some.inj (hbase.symm.trans hbase')
  exact coversName_of_mem_replicaNames hname

/-- A later deletion knows again what a creation has returned.  Its template has the same
    type and the same metadata, its separator is the same, and so is the uid of its watch;
    the number of replicas, the other members and the other settings may have changed.  Then
    every observed resource that stands for a replica counts among those of the watch, and
    the host is not told to delete it. -/
theorem planDelete_recognises_replicas (settings' : Settings) (watch : Owner)
    (template' : Document) (observed : List Resource) (huid : provenance.watch.uid ≠ "")
    (hcreate : planCreate settings provenance template replicas = .ok plan)
    (hwatch : watch.uid = provenance.watch.uid)
    (hseparator : settings'.separator = settings.separator)
    (htemplate : ∀ name ∈ Resource.typedNames, template'.member? name = template.member? name) :
    ∃ r deletion, parseTemplate template' = .ok r ∧
      planDelete settings' watch template' observed = .ok deletion ∧
      deletion.report.desired = observed.countP
        (fun x => (DeleteTarget.ofTemplate r).roleOf settings'.separator watch x = .desired) ∧
      ∀ x ∈ observed, (∃ c ∈ plan.desired, x.StandsFor c) →
        (DeleteTarget.ofTemplate r).roleOf settings'.separator watch x = .desired ∧
          x ∉ deletion.explicit := by
  obtain ⟨-, r, -, hr, -⟩ := planCreate_eq_ok.mp hcreate
  obtain ⟨r', hr', hversion, hkind, hmetadata⟩ := parseTemplate_of_member?_eq hr htemplate
  -- Both templates aim at the same resources.
  have htarget : DeleteTarget.ofTemplate r' = DeleteTarget.ofTemplate r :=
    DeleteTarget.ofTemplate_congr hversion hkind hmetadata
  obtain ⟨deletion, hdelete⟩ : ∃ deletion,
      planDelete settings' watch template' observed = .ok deletion :=
    ⟨_, planDelete_eq_ok.mpr ⟨r', hr', rfl⟩⟩
  refine ⟨r', deletion, hr', hdelete, desired_of_planDelete hr' hdelete, ?_⟩
  rintro x hx ⟨c, hc, hstands⟩
  -- A replica has the mark of its watch and a name that the template covers.
  have hmine : x.createdBy watch = true :=
    hstands.createdBy (createdBy_of_planCreate hcreate hc huid) hwatch
  have hcovers : (DeleteTarget.ofTemplate r').covers settings'.separator x = true := by
    rw [htarget, hseparator]
    exact DeleteTarget.covers_of_standsFor hstands (DeleteTarget.covers_of_planCreate hcreate hc hr)
  refine ⟨DeleteTarget.roleOf_eq_desired.mpr ⟨hcovers, hmine⟩, fun hexplicit => ?_⟩
  have hother := ((mem_explicit_of_planDelete hdelete).mp hexplicit).2.1
  simp [hmine] at hother

end Replicas

namespace GeneratedReplicas

/-- A template of config maps with generated names. -/
def template (spec : Document) : Document :=
  .obj [("apiVersion", .str "v1"), ("kind", .str "ConfigMap"),
    ("metadata", .obj [("generateName", .str "cfg-"), ("namespace", .str "a")]), ("spec", spec)]

/-- Settings with another separator than the usual one. -/
def settings : Settings := { Settings.default with separator := "." }

/-- The settings of the later deletion, which allow for fewer replicas. -/
def laterSettings : Settings := { settings with maxReplicas := 1 }

/-- Who creates the config maps. -/
def provenance : Provenance :=
  ⟨Owner.watch "w-uid" "w", some (Owner.run "r-uid" "r"), some "create"⟩

/-- A config map of this name, without any annotations. -/
def configMap (name : String) : Resource :=
  ⟨"v1", "ConfigMap",
    { Metadata.empty with name := some name, namespaceName := some "a" }, [("spec", .obj [])]⟩

/-- What is created: the first two replicas. -/
def plan : CreatePlan where
  desired := ["cfg-.0", "cfg-.1"].map fun name => (configMap name).withProvenance provenance
  report :=
    { phase := .online
      message := "Create ConfigMap cfg-.[0..1]"
      created := [] }

/-- The watch, under another name. -/
def laterWatch : Owner := Owner.watch "w-uid" "renamed"

/-- The second replica as it is observed later. -/
def replica : Resource :=
  { (configMap "cfg-.1").withProvenance provenance with data := [("status", .str "in use")] }

/-- The template makes two replicas. -/
theorem planCreate_template :
    planCreate settings provenance (template (.obj [])) 2 = .ok plan := rfl

/-- The observed replica stands for one that the template has made. -/
theorem standsFor_replica : ∃ c ∈ plan.desired, replica.StandsFor c :=
  ⟨(configMap "cfg-.1").withProvenance provenance, .tail _ (.head _), ⟨rfl, rfl, rfl, rfl⟩, rfl⟩

/-- Two such templates differ in their spec only, which does not count for deletion. -/
theorem member?_template (spec spec' : Document) :
    ∀ name ∈ Resource.typedNames, (template spec).member? name = (template spec').member? name := by
  intro name hname
  simp only [Resource.typedNames, List.mem_cons, List.not_mem_nil, or_false] at hname
  rcases hname with rfl | rfl | rfl <;> rfl

end GeneratedReplicas

open GeneratedReplicas in
/-- Two config maps with generated names are created.  When the template asks for their
    deletion one of them is left, next to a config map of nobody whose name fits. -/
theorem planDelete_recognises_generated :
    provenance.watch.uid ≠ "" ∧
      planCreate settings provenance (template (.obj [])) 2 = .ok plan ∧
      laterWatch.uid = provenance.watch.uid ∧ laterSettings.separator = settings.separator ∧
      (∀ name ∈ Resource.typedNames,
        (template .null).member? name = (template (.obj [])).member? name) ∧
      (∃ c ∈ plan.desired, replica.StandsFor c) ∧
      ∃ r deletion, parseTemplate (template .null) = .ok r ∧
        planDelete laterSettings laterWatch (template .null) [configMap "cfg-.0", replica] =
          .ok deletion ∧
        (DeleteTarget.ofTemplate r).roleOf laterSettings.separator laterWatch replica = .desired ∧
        replica ∉ deletion.explicit := by
  have huid : provenance.watch.uid ≠ "" := by decide
  have htemplate := member?_template .null (.obj [])
  refine ⟨huid, planCreate_template, rfl, rfl, htemplate, standsFor_replica, ?_⟩
  obtain ⟨r, deletion, hr, hdelete, -, hrecognised⟩ :=
    planDelete_recognises_replicas laterSettings laterWatch (template .null)
      [configMap "cfg-.0", replica] huid planCreate_template rfl rfl htemplate
  obtain ⟨hrole, hexplicit⟩ := hrecognised replica (.tail _ (.head _)) standsFor_replica
  exact ⟨r, deletion, hr, hdelete, hrole, hexplicit⟩

end Reconciler
