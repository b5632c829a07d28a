import Mathlib.Data.List.Nodup
import Reconciler.Proofs.Plan.Template
import Reconciler.Proofs.Resource.Stamp

namespace Reconciler

/-!
# The replicas of a template

A creation returns as many copies of its template as were asked for.  They differ from it in
their names and in the annotations that record where they come from, and from each other in
their names alone.

* `replicaName_injective`, `nodup_ids_planCreate` — the addresses of the replicas;
* `Document.Uncreatable` — the templates that nothing can be created from;
* `Resource.IsReplica` — what a replica has of its own, and what it has from the template;
* `planCreate_replicas` — when a creation fails, and what it returns if it does not.
-/

/-! ### Addresses -/

/-- Behind one base name and one separator the index tells the replicas apart, even when
    these two end in digits. -/
theorem replicaName_injective (base separator : String) :
    Function.Injective fun i : Nat => base ++ separator ++ toString i := by
  intro i j h
  have hdigits : (toString i).toList = (toString j).toList :=
    congrArg String.toList ((String.append_right_inj _).mp h)
  have hvalue := congrArg (fun digits => Nat.ofDigitChars 10 digits 0) hdigits
  simpa [Nat.toString_eq_ofList_toDigits] using hvalue

/-- No two replicas have one name. -/
theorem replicaNames_nodup (base separator : String) (replicas : Nat) :
    (replicaNames base separator replicas).Nodup := by
  unfold replicaNames
  split
  · exact List.nodup_singleton base
  · exact List.nodup_range.map (replicaName_injective base separator)

theorem length_replicaNames (base separator : String) (replicas : Nat) :
    (replicaNames base separator replicas).length = replicas := by
  unfold replicaNames
  split
  · next hone => exact hone.symm
  · rw [List.length_map, List.length_range]

/-- A single replica has the base name, and several have their numbers after it. -/
theorem getElem?_replicaNames {base separator name : String} {replicas i : Nat}
    (h : (replicaNames base separator replicas)[i]? = some name) :
    name = if replicas = 1 then base else base ++ separator ++ toString i := by
  unfold replicaNames at h
  split at h
  · -- One replica has no number.
    next hone =>
    rw [if_pos hone]
    exact List.mem_singleton.mp (List.mem_of_getElem? h)
  · next hmany =>
    rw [if_neg hmany]
    rw [List.getElem?_map, Option.map_eq_some_iff] at h
    obtain ⟨j, hj, rfl⟩ := h
    obtain ⟨_, rfl⟩ := List.getElem?_eq_some_iff.mp hj
    rw [List.getElem_range]

section Creations

variable {settings : Settings} {provenance : Provenance} {template : Document}
  {replicas : UInt32} {plan : CreatePlan}

/-- The replicas of a template differ in their names, and so in their addresses. -/
theorem nodup_ids_planCreate
    (h : planCreate settings provenance template replicas = .ok plan) :
    (plan.desired.map (·.id)).Nodup := by
  obtain ⟨-, r, base, -, -, hdesired, -⟩ := planCreate_eq_ok.mp h
  have hnames : (plan.desired.map (·.id)).map (·.name) =
      replicaNames base settings.separator replicas.toNat := by
    rw [hdesired, List.map_map, List.map_map]
    exact List.map_id _
  -- The other parts of an address are the same for all replicas.
  refine List.Nodup.of_map (·.name) ?_
  rw [hnames]
  exact replicaNames_nodup _ _ _

/-! ### Templates -/

namespace Resource

/-- A resource without any name, given or generated: empty ones count as missing. -/
structure Nameless (r : Resource) : Prop where
  generateName : ∀ g, r.metadata.generateName = some g → g = ""
  name : ∀ n, r.metadata.name = some n → n = ""

/-- A resource has no base name iff it has neither a name nor a prefix for one. -/
theorem baseName?_eq_none {r : Resource} : r.baseName? = none ↔ r.Nameless := by
  rw [baseName?, Option.orElse_eq_orElse, Option.orElse_eq_or, Option.or_eq_none_iff,
    unlessEmpty_eq_none, unlessEmpty_eq_none]
  constructor
  · rintro ⟨hgenerated, hgiven⟩
    exact ⟨hgenerated, hgiven⟩
  · intro h
    exact ⟨h.generateName, h.name⟩

end Resource

namespace Document

/-- The member is missing, or it is the empty text. -/
def LacksText (name : String) (d : Document) : Prop :=
  d.member? name = none ∨ d.member? name = some (.str "")

/-- The templates that nothing can be created from. -/
inductive Uncreatable : Document → Prop
  | null : Uncreatable .null
  | empty : Uncreatable (.obj [])
  | unreadable {d : Document} {e : ResourceError} (h : Resource.decode d = .error e) :
      Uncreatable d
  | missingApiVersion {d : Document} (h : d.LacksText "apiVersion") : Uncreatable d
  | missingKind {d : Document} (h : d.LacksText "kind") : Uncreatable d
  | nameless {d : Document} {r : Resource} (h : Resource.decode d = .ok r) (hr : r.Nameless) :
      Uncreatable d

end Document

/-- A member that is read as the empty text when it is missing lacks a text when it reads so. -/
theorem Wire.Fields.lacksText_iff {members : List (String × Document)} {name s : String}
    (h : (withDefault name string "").Reads members s) :
    Document.LacksText name (.obj members) ↔ s = "" := by
  unfold Document.LacksText
  show Entries.get? name members = none ∨ Entries.get? name members = some (.str "") ↔ _
  rcases Fields.reads_withDefault.mp h with ⟨hnone, rfl⟩ | ⟨d, hsome, hread⟩
  · exact iff_of_true (.inl hnone) rfl
  · rw [hsome, string_eq_ok.mp hread]
    simp

/-- A template that can be read lacks a text when the resource has an empty one. -/
theorem Resource.lacksText_iff {d : Document} {r : Resource} (h : Resource.decode d = .ok r) :
    (d.LacksText "apiVersion" ↔ r.apiVersion = "") ∧ (d.LacksText "kind" ↔ r.kind = "") := by
  obtain ⟨members, rfl, hversion, hkind, -⟩ := Resource.decode_eq_ok.mp h
  exact ⟨Wire.Fields.lacksText_iff hversion, Wire.Fields.lacksText_iff hkind⟩

/-- Nothing is created from a template just when it is none, or has no base name. -/
theorem uncreatable_iff :
    template.Uncreatable ↔
      ¬ ∃ r base, parseTemplate template = .ok r ∧ r.baseName? = some base := by
  constructor
  · -- A template with a base name has none of the faults, one after the other.
    rintro h ⟨r, base, hr, hbase⟩
    obtain ⟨hdecode, hversion, hkind⟩ := parseTemplate_eq_ok.mp hr
    have hlacks := Resource.lacksText_iff hdecode
    cases h with
    | null => cases hdecode
    | empty => exact hversion (hlacks.1.mp (.inl rfl))
    | unreadable h =>
      rw [h] at hdecode
      cases hdecode
    | missingApiVersion h => exact hversion (hlacks.1.mp h)
    | missingKind h => exact hkind (hlacks.2.mp h)
    | nameless h hnameless =>
      obtain rfl := ok_unique hdecode h
      rw [Resource.baseName?_eq_none.mpr hnameless] at hbase
      cases hbase
  · intro h
    -- An empty template need not be told apart: it lacks its API version.
    cases hdecode : Resource.decode template with
    | error e => exact .unreadable hdecode
    | ok r =>
      have hlacks := Resource.lacksText_iff hdecode
      by_cases hversion : r.apiVersion = ""
      · exact .missingApiVersion (hlacks.1.mpr hversion)
      by_cases hkind : r.kind = ""
      · exact .missingKind (hlacks.2.mpr hkind)
      refine .nameless hdecode (Resource.baseName?_eq_none.mp ?_)
      rw [Option.eq_none_iff_forall_not_mem]
      intro base hbase
      exact h ⟨r, base, parseTemplate_eq_ok.mpr ⟨hdecode, hversion, hkind⟩, hbase⟩

/-! ### Creations -/

/-- The resource `x` is the resource `r` under this name: it generates no other name, it records
    the provenance, and it has from `r` the other annotations and everything else. -/
structure Resource.IsReplica (x r : Resource) (provenance : Provenance) (name : String) :
    Prop where
  name : x.metadata.name = some name
  generateName : x.metadata.generateName = none
  provenance : x.provenance? = some provenance
  annotation : ∀ key, key ∉ Provenance.names → x.annotation? key = r.annotation? key
  rest : { x with metadata := { x.metadata with
    name := r.metadata.name
    generateName := r.metadata.generateName
    annotations := r.metadata.annotations } } = r

/-- A stamped and named copy of a template is a replica of it. -/
theorem Resource.isReplica_stamped (r : Resource) (name : String) (hp : provenance.Complete) :
    ((r.stamped provenance).withName name).IsReplica r provenance name where
  name := rfl
  generateName := rfl
  provenance := provenance?_withProvenance_of_complete _ hp
  annotation := fun _ hkey => annotation?_withProvenance_of_not_mem _ hkey
  rest := rfl

/-- A creation succeeds iff there is a replica to make and the template can be created. -/
theorem exists_planCreate_eq_ok :
    (∃ plan, planCreate settings provenance template replicas = .ok plan) ↔
      replicas ≠ 0 ∧ ¬ template.Uncreatable := by
  rw [uncreatable_iff, not_not]
  constructor
  · rintro ⟨plan, hplan⟩
    obtain ⟨hzero, r, base, hr, hbase, -⟩ := planCreate_eq_ok.mp hplan
    exact ⟨hzero, r, base, hr, hbase⟩
  · rintro ⟨hzero, r, base, hr, hbase⟩
    simp [planCreate, hzero, hr, hbase]

/-- A creation under a complete provenance fails when no replica is asked for or nothing can be
    created from the template, and for no other reason.  Otherwise it returns as many replicas of
    the template as were asked for.  A single one has the base name, and several have it with the
    separator and their index; so no two of them have the same address. -/
theorem planCreate_replicas (settings : Settings) (template : Document) (replicas : UInt32)
    (hp : provenance.Complete) :
    ((∃ e, planCreate settings provenance template replicas = .error e) ↔
      replicas = 0 ∨ template.Uncreatable) ∧
    ∀ plan, planCreate settings provenance template replicas = .ok plan →
      ∃ r base, Resource.decode template = .ok r ∧ r.BaseName base ∧
        plan.desired.length = replicas.toNat ∧
        (∀ (i : Nat) (x : Resource), plan.desired[i]? = some x → x.IsReplica r provenance
          (if replicas = 1 then base else base ++ settings.separator ++ toString i)) ∧
        (plan.desired.map (·.id)).Nodup := by
  refine ⟨?_, fun plan hplan => ?_⟩
  · rw [exists_error_iff, exists_planCreate_eq_ok, not_and_or, not_not, not_not]
  · obtain ⟨-, r, base, hr, hbase, hdesired, -⟩ := planCreate_eq_ok.mp hplan
    refine ⟨r, base, (parseTemplate_eq_ok.mp hr).1, Resource.baseName?_eq_some.mp hbase, ?_,
      fun i x hx => ?_, nodup_ids_planCreate hplan⟩
    · rw [hdesired, List.length_map, length_replicaNames]
    · rw [hdesired, List.getElem?_map, Option.map_eq_some_iff] at hx
      obtain ⟨name, hname, rfl⟩ := hx
      have hnumbered := getElem?_replicaNames hname
      -- The number of replicas is one as a word iff it is as a number.
      have hone : replicas.toNat = 1 ↔ replicas = 1 := @UInt32.toNat_inj replicas 1
      rw [hnumbered]
      simp only [hone]
      exact r.isReplica_stamped _ hp

end Creations

namespace MarkedTemplate

/-- A config map with a generated name that has been created by another watch, and has an
    annotation of its own. -/
def resource : Resource :=
  ⟨"v1", "ConfigMap",
    { Metadata.empty with
      annotations := some
        ⟨[("converge.dev/created-due-to-watch", "v-uid"), ("converge.dev/note", "kept")],
          by decide⟩
      generateName := some "cfg-1"
      name := some "cfg" },
    [("data", .obj [("mode", .str "fast")])]⟩

/-- The template that it is read from. -/
def template : Document := resource.encode

/-- Who creates config maps from it. -/
def provenance : Provenance :=
  ⟨Owner.watch "w-uid" "w", some (Owner.run "r-uid" "r"), some "create"⟩

theorem complete_provenance : provenance.Complete :=
  ⟨rfl, by decide, ⟨_, rfl, rfl⟩, ⟨_, rfl⟩⟩

end MarkedTemplate

open MarkedTemplate in
/-- The second of two config maps has a numbered name and the marker of its own watch, and keeps
    the note. -/
theorem planCreate_replicas_marked :
    provenance.Complete ∧ ∃ plan x,
      planCreate Settings.default provenance template 2 = .ok plan ∧
        plan.desired[1]? = some x ∧ x.IsReplica resource provenance "cfg-1-1" ∧
        x.annotation? "converge.dev/note" = some "kept" := by
  obtain ⟨plan, hplan⟩ :
      ∃ plan, planCreate Settings.default provenance template 2 = .ok plan := ⟨_, rfl⟩
  obtain ⟨-, hreplicas⟩ :=
    planCreate_replicas Settings.default template 2 complete_provenance
  obtain ⟨r, base, hdecode, hbase, hlength, hreplica, -⟩ := hreplicas plan hplan
  obtain rfl : resource = r := ok_unique rfl hdecode
  obtain rfl : "cfg-1" = base := Option.some.inj (Resource.baseName?_eq_some.mpr hbase)
  have hsecond : 1 < plan.desired.length := by
    rw [hlength]
    decide
  have hx := hreplica 1 plan.desired[1] (List.getElem?_eq_getElem hsecond)
  exact ⟨complete_provenance, plan, plan.desired[1], hplan, List.getElem?_eq_getElem hsecond, hx,
    (hx.annotation _ (by decide)).trans rfl⟩

end Reconciler
