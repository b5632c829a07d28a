import Reconciler.Plan.CreateOrDelete
import Reconciler.Proofs.Resource.Provenance

namespace Reconciler

/-!
# What templates create and delete

* `parseTemplate_eq_ok`, `parseTemplate_of_member?_eq` — what a document must have to be a
  template, and what decides about its type and its metadata;
* `isDeleteIntent_iff` — which templates ask for a deletion;
* `Resource.BaseName` — the name from which the names of replicas are built;
* `planCreate_eq_ok` — when a creation succeeds, and the replicas that it returns;
* `exists_name_of_planCreate`, `createdBy_of_planCreate` — the replicas are stamped copies of
  the template, and belong to the watch;
* `planDelete_eq_ok` — when a deletion succeeds, and the roles of the observed resources;
* `mem_explicit_of_planDelete` — the observed resources that the host is told to delete.
-/

variable {settings : Settings} {provenance : Provenance} {template : Document}

/-! ### Templates -/

/-- A template is a resource with a type.  Nothing else has to be said of it: an empty
    document has no type either. -/
theorem parseTemplate_eq_ok {r : Resource} :
    parseTemplate template = .ok r ↔
      Resource.decode template = .ok r ∧ r.apiVersion ≠ "" ∧ r.kind ≠ "" := by
  -- An empty template is refused for itself, but it has no apiVersion either.
  have hempty : isEmptyTemplate template = true → Resource.decode template = .ok r →
      r.apiVersion = "" := by
    intro hempty hr
    obtain ⟨members, rfl, hversion, -⟩ := Resource.decode_eq_ok.mp hr
    obtain rfl := List.isEmpty_iff.mp hempty
    rcases Wire.Fields.reads_withDefault.mp hversion with ⟨-, hversion⟩ | ⟨d, hget, -⟩
    · exact hversion.symm
    · cases hget
  rw [parseTemplate]
  by_cases h : isEmptyTemplate template = true
  · simp only [h, if_true, reduceCtorEq, false_iff]
    rintro ⟨hr, hversion, -⟩
    exact hversion (hempty h hr)
  · rw [if_neg h]
    cases Resource.decode template with
    | error e => simp
    | ok r' =>
      simp only [String.isEmpty_iff, Except.ok.injEq]
      grind

/-- The type and the metadata of a template are told by its own members of these names. -/
theorem parseTemplate_of_member?_eq {later : Document} {r : Resource}
    (h : parseTemplate template = .ok r)
    (hlater : ∀ name ∈ Resource.typedNames, later.member? name = template.member? name) :
    ∃ r', parseTemplate later = .ok r' ∧ r'.apiVersion = r.apiVersion ∧ r'.kind = r.kind ∧
      r'.metadata = r.metadata := by
  obtain ⟨hr, hversion, hkind⟩ := parseTemplate_eq_ok.mp h
  obtain ⟨members, rfl, hreadsVersion, hreadsKind, hreadsMetadata, -⟩ :=
    Resource.decode_eq_ok.mp hr
  -- The later template is an object too, since it has the API version of the first.
  obtain ⟨members', rfl⟩ : ∃ members', later = .obj members' := by
    rcases Wire.Fields.reads_withDefault.mp hreadsVersion with ⟨-, hnone⟩ | ⟨d, hget, -⟩
    · exact absurd hnone.symm hversion
    · have hmember : later.member? "apiVersion" = some d := (hlater _ (by decide)).trans hget
      cases later with
      | obj members' => exact ⟨members', rfl⟩
      | _ => cases hmember
  have hget : ∀ name ∈ Resource.typedNames,
      Entries.get? name members' = Entries.get? name members := hlater
  refine ⟨⟨r.apiVersion, r.kind, r.metadata,
    members'.filter fun e => !Resource.typedNames.contains e.1⟩, ?_, rfl, rfl, rfl⟩
  refine parseTemplate_eq_ok.mpr ⟨Resource.decode_eq_ok.mpr ⟨members', rfl, ?_⟩, hversion, hkind⟩
  exact ⟨(Wire.Fields.reads_withDefault_congr (hget _ (by decide))).mpr hreadsVersion,
    (Wire.Fields.reads_withDefault_congr (hget _ (by decide))).mpr hreadsKind,
    (Wire.Fields.reads_withDefault_congr (hget _ (by decide))).mpr hreadsMetadata, rfl⟩

/-- A deletion is asked for by a number of replicas that is zero, or by a `spec` that is null. -/
theorem isDeleteIntent_iff {replicas : Option UInt32} :
    isDeleteIntent template replicas = true ↔
      replicas = some 0 ∨ template.member? "spec" = some .null := by
  have hnull : ∀ d : Document, d.isNull = true ↔ d = .null := fun d => by
    cases d <;> simp [Document.isNull]
  rw [isDeleteIntent, Bool.or_eq_true, beq_iff_eq]
  cases template.member? "spec" <;> simp [hnull]

/-! ### Base names -/

namespace Resource

/-- A text that is not empty counts as it is. -/
theorem unlessEmpty_eq_some {s : Option String} {t : String} :
    unlessEmpty s = some t ↔ s = some t ∧ t ≠ "" := by
  simp [unlessEmpty, Option.filter_eq_some_iff]

theorem unlessEmpty_eq_none {s : Option String} :
    unlessEmpty s = none ↔ ∀ t, s = some t → t = "" := by
  simp [unlessEmpty, Option.filter_eq_none_iff]

/-- The base name is the generated name if that is not empty, and else the given one if that is
    not empty. -/
inductive BaseName (r : Resource) (base : String) : Prop
  | generated (h : r.metadata.generateName = some base) (hbase : base ≠ "")
  | given (hgenerated : ∀ g, r.metadata.generateName = some g → g = "")
      (h : r.metadata.name = some base) (hbase : base ≠ "")

/-- The base name is the name, or the prefix for one where there is no name. -/
theorem baseName?_eq_some {r : Resource} {base : String} :
    r.baseName? = some base ↔ r.BaseName base := by
  rw [baseName?, Option.orElse_eq_orElse, Option.orElse_eq_or, Option.or_eq_some_iff,
    unlessEmpty_eq_some, unlessEmpty_eq_none, unlessEmpty_eq_some]
  constructor
  · rintro (⟨h, hbase⟩ | ⟨hgenerated, h, hbase⟩)
    · exact .generated h hbase
    · exact .given hgenerated h hbase
  · intro h
    cases h with
    | generated h hbase => exact .inl ⟨h, hbase⟩
    | given hgenerated h hbase => exact .inr ⟨hgenerated, h, hbase⟩

end Resource

/-! ### Creations -/

/-- The resource of a template as it is created, apart from the name: it generates no
    name, and carries the provenance. -/
def Resource.stamped (r : Resource) (provenance : Provenance) : Resource :=
  { r with metadata := { r.metadata with generateName := none } }.withProvenance provenance

/-- A creation succeeds for at least one replica of a template with a base name, and its
    replicas differ in nothing but their names. -/
theorem planCreate_eq_ok {replicas : UInt32} {plan : CreatePlan} :
    planCreate settings provenance template replicas = .ok plan ↔
      replicas ≠ 0 ∧ ∃ r base, parseTemplate template = .ok r ∧ r.baseName? = some base ∧
        plan.desired = (replicaNames base settings.separator replicas.toNat).map
          (r.stamped provenance).withName ∧
        plan.report =
          { phase := .online
            message := createMessage r.kind base settings.separator replicas.toNat
            created :=
              if settings.categories.contains .create then plan.desired.map (·.id.display)
              else [] } := by
  rw [planCreate]
  by_cases hzero : replicas = 0
  · simp [hzero]
  · rw [if_neg hzero]
    simp only [bind_eq_ok, ne_eq, hzero, not_false_eq_true, true_and]
    refine exists_congr fun r => ?_
    rw [exists_and_left, and_congr_right_iff]
    intro _
    -- Without a base name there is no plan.
    cases r.baseName? with
    | none => simp
    | some base =>
      simp only [pure_eq_ok, Option.some.injEq, exists_eq_left']
      constructor
      · rintro rfl
        exact ⟨rfl, rfl⟩
      · rintro ⟨hdesired, hreport⟩
        obtain ⟨desired, report⟩ := plan
        dsimp only at hdesired hreport
        rw [hreport, hdesired]
        rfl

/-- Every replica is the stamped template under a name of its own. -/
theorem exists_name_of_planCreate {replicas : UInt32} {plan : CreatePlan} {x : Resource}
    (h : planCreate settings provenance template replicas = .ok plan) (hx : x ∈ plan.desired) :
    ∃ r name, parseTemplate template = .ok r ∧ x = (r.stamped provenance).withName name := by
  obtain ⟨-, r, base, hr, -, hdesired, -⟩ := planCreate_eq_ok.mp h
  rw [hdesired] at hx
  obtain ⟨name, -, rfl⟩ := List.mem_map.mp hx
  exact ⟨r, name, hr, rfl⟩

/-- Every replica belongs to the watch, whatever annotations the template has. -/
theorem createdBy_of_planCreate {replicas : UInt32} {plan : CreatePlan} {x : Resource}
    (h : planCreate settings provenance template replicas = .ok plan) (hx : x ∈ plan.desired)
    (huid : provenance.watch.uid ≠ "") : x.createdBy provenance.watch = true := by
  obtain ⟨r, name, -, rfl⟩ := exists_name_of_planCreate h hx
  rw [Resource.createdBy_withName]
  exact Resource.createdBy_withProvenance _ huid

/-! ### Deletions -/

/-- The plan of a deletion by these roles of the observed resources. -/
def DeletePlan.ofRoles (settings : Settings) (kind : String) (role : Resource → DeleteRole)
    (observed : List Resource) : DeletePlan :=
  let skipped := observed.filter (role · = .skipped)
  let desired := observed.filter (role · = .desired)
  let explicit := observed.filter (role · = .explicit)
  { explicit
    report :=
      { phase := if desired.length + explicit.length = 0 then .skipped else .online
        message := deleteMessage kind desired.length explicit.length
        skipped := skipped.length
        desired := desired.length
        explicit := explicit.length
        skippedInfo := listIds settings .skip skipped
        desiredInfo := listIds settings .desiredDelete desired
        explicitInfo := listIds settings .explicitDelete explicit } }

/-- A deletion succeeds whenever its template does, and gives every observed resource a
    role. -/
theorem planDelete_eq_ok {watch : Owner} {observed : List Resource} {plan : DeletePlan} :
    planDelete settings watch template observed = .ok plan ↔
      ∃ r, parseTemplate template = .ok r ∧
        plan = .ofRoles settings r.kind
          ((DeleteTarget.ofTemplate r).roleOf settings.separator watch) observed := by
  simp only [planDelete, bind_eq_ok, pure_eq_ok]
  exact exists_congr fun r => and_congr_right fun _ => eq_comm

section Roles

variable {t : DeleteTarget} {separator : String} {watch : Owner} {x : Resource}

/-- Skipped are the resources that the target does not cover. -/
theorem DeleteTarget.roleOf_eq_skipped :
    t.roleOf separator watch x = .skipped ↔ t.covers separator x = false := by
  rw [roleOf]
  split
  · next hcovers => split <;> simp_all
  · next hcovers => simp [hcovers]

theorem DeleteTarget.roleOf_eq_desired :
    t.roleOf separator watch x = .desired ↔
      t.covers separator x = true ∧ x.createdBy watch = true := by
  rw [roleOf]
  split
  · next hcovers => split <;> simp_all
  · next hcovers => simp [hcovers]

theorem DeleteTarget.roleOf_eq_explicit :
    t.roleOf separator watch x = .explicit ↔
      t.covers separator x = true ∧ x.createdBy watch = false := by
  rw [roleOf]
  split
  · next hcovers => split <;> simp_all
  · next hcovers => simp [hcovers]

end Roles

/-- A deletion reports how many of the observed resources belong to the watch. -/
theorem desired_of_planDelete {watch : Owner} {observed : List Resource} {plan : DeletePlan}
    {r : Resource} (hr : parseTemplate template = .ok r)
    (h : planDelete settings watch template observed = .ok plan) :
    plan.report.desired = observed.countP
      (fun x => (DeleteTarget.ofTemplate r).roleOf settings.separator watch x = .desired) := by
  obtain ⟨r', hr', rfl⟩ := planDelete_eq_ok.mp h
  obtain rfl := ok_unique hr hr'
  exact List.countP_eq_length_filter.symm

/-- A deletion returns the observed resources that its template means and that the watch
    has not created, as they are. -/
theorem mem_explicit_of_planDelete {watch : Owner} {observed : List Resource} {plan : DeletePlan}
    {x : Resource} (h : planDelete settings watch template observed = .ok plan) :
    x ∈ plan.explicit ↔
      x ∈ observed ∧ x.createdBy watch = false ∧ ∃ r, parseTemplate template = .ok r ∧
        (DeleteTarget.ofTemplate r).covers settings.separator x = true := by
  obtain ⟨r, hr, rfl⟩ := planDelete_eq_ok.mp h
  rw [DeletePlan.ofRoles, List.mem_filter, decide_eq_true_iff, DeleteTarget.roleOf_eq_explicit, hr]
  simp [and_comm]

end Reconciler
