import Reconciler.Proofs.Plan.Recognition

namespace Reconciler

/-!
# How a deletion sorts what is observed

A deletion drops what its template means, and must not touch anything else.  Every observed
resource is sorted by itself, so the plan for a list is made of the plans for its parts.

* `Resource.Spares` — what a template does not mean, in terms of the two resources;
* `Resource.Assigns` — the roles of all resources under a template;
* `DeletePlan.Sorts` — a plan holds and counts the resources by their roles;
* `DeletePlan.Joins` — a plan is made of two others;
* `planDelete_partition` — every deletion sorts what is observed.
-/

/-! ### What a template spares -/

/-- The template `t` does not mean the resource `x`: the type is another one, or the template
    has a namespace and it is another one, or it has a base name and the name neither is that
    nor goes on from it after the separator. -/
inductive Resource.Spares (t : Resource) (separator : String) (x : Resource) : Prop
  | apiVersion (h : x.apiVersion ≠ t.apiVersion)
  | kind (h : x.kind ≠ t.kind)
  | namespaceName {ns : String} (h : t.metadata.namespaceName = some ns) (hns : ns ≠ "")
      (hx : x.metadata.namespaceName ≠ some ns)
  | name {base : String} (h : t.BaseName base) (hx : x.name ≠ base)
      (hrest : ∀ rest, x.name ≠ base ++ separator ++ rest)

namespace DeleteTarget

/-- A template passes over the resources that it spares. -/
theorem covers_ofTemplate_eq_false {t x : Resource} {separator : String} :
    (ofTemplate t).covers separator x = false ↔ t.Spares separator x := by
  rw [← Bool.not_eq_true, covers_iff]
  constructor
  · -- Whatever the target asks for and does not find is a reason to spare the resource.
    intro h
    by_contra hspares
    refine h ⟨?_, ?_, fun ns hns => ?_, fun base hbase => ?_⟩
    · exact not_not.mp fun hne => hspares (.apiVersion hne)
    · exact not_not.mp fun hne => hspares (.kind hne)
    · obtain ⟨hgiven, hnonempty⟩ := Resource.unlessEmpty_eq_some.mp hns
      refine Resource.unlessEmpty_eq_some.mpr ⟨?_, hnonempty⟩
      exact not_not.mp fun hne => hspares (.namespaceName hgiven hnonempty hne)
    · rw [coversName_eq_true]
      by_contra hname
      obtain ⟨hne, hrest⟩ := not_or.mp hname
      exact hspares (.name (Resource.baseName?_eq_some.mp hbase) hne (not_exists.mp hrest))
  · rintro hspares ⟨hversion, hkind, hnamespace, hname⟩
    cases hspares with
    | apiVersion h => exact h hversion
    | kind h => exact h hkind
    | namespaceName h hns hx =>
      have hsame := hnamespace _ (Resource.unlessEmpty_eq_some.mpr ⟨h, hns⟩)
      exact hx (Resource.unlessEmpty_eq_some.mp hsame).1
    | name h hx hrest =>
      have hcovers := hname _ (Resource.baseName?_eq_some.mpr h)
      rcases coversName_eq_true.mp hcovers with hbase | ⟨rest, hgoes⟩
      · exact hx hbase
      · exact hrest rest hgoes

/-- A template covers the resources that it does not spare. -/
theorem covers_ofTemplate_eq_true {t x : Resource} {separator : String} :
    (ofTemplate t).covers separator x = true ↔ ¬ t.Spares separator x := by
  rw [← covers_ofTemplate_eq_false, Bool.not_eq_false]

end DeleteTarget

/-! ### Roles -/

/-- The resources that the template does not mean are skipped, and the others are told apart by
    who created them. -/
structure Resource.Assigns (t : Resource) (separator : String) (watch : Owner)
    (role : Resource → DeleteRole) : Prop where
  skipped : ∀ x, role x = .skipped ↔ t.Spares separator x
  desired : ∀ x, role x = .desired ↔ ¬ t.Spares separator x ∧ x.createdBy watch = true
  explicit : ∀ x, role x = .explicit ↔ ¬ t.Spares separator x ∧ x.createdBy watch = false

/-- The role of a resource is skipped if the template spares it, desired if the watch has created
    it, and explicit otherwise. -/
theorem DeleteTarget.assigns_roleOf (t : Resource) (separator : String) (watch : Owner) :
    t.Assigns separator watch ((ofTemplate t).roleOf separator watch) := by
  refine ⟨fun x => ?_, fun x => ?_, fun x => ?_⟩
  · rw [roleOf_eq_skipped, covers_ofTemplate_eq_false]
  · rw [roleOf_eq_desired, covers_ofTemplate_eq_true]
  · rw [roleOf_eq_explicit, covers_ofTemplate_eq_true]

/-- Every resource has one of the three roles. -/
theorem DeleteRole.countP_add (role : Resource → DeleteRole) (observed : List Resource) :
    observed.countP (role · = .skipped) + observed.countP (role · = .desired) +
      observed.countP (role · = .explicit) = observed.length := by
  induction observed with
  | nil => rfl
  | cons x observed ih =>
    simp only [List.countP_cons, List.length_cons]
    cases role x <;> simp <;> omega

/-! ### Plans -/

/-- The plan counts the observed resources by their roles, all of them, and holds those that the
    host must be told to delete as they are.  It is online when there is anything to delete. -/
structure DeletePlan.Sorts (plan : DeletePlan) (settings : Settings)
    (role : Resource → DeleteRole) (observed : List Resource) : Prop where
  skipped : plan.report.skipped = observed.countP (role · = .skipped)
  desired : plan.report.desired = observed.countP (role · = .desired)
  explicit : plan.report.explicit = observed.countP (role · = .explicit)
  total : plan.report.skipped + plan.report.desired + plan.report.explicit = observed.length
  resources : plan.explicit = observed.filter (role · = .explicit)
  phase : plan.report.phase = .online ↔ 0 < plan.report.desired + plan.report.explicit
  skippedInfo : plan.report.skippedInfo =
    listIds settings .skip (observed.filter (role · = .skipped))
  desiredInfo : plan.report.desiredInfo =
    listIds settings .desiredDelete (observed.filter (role · = .desired))
  explicitInfo : plan.report.explicitInfo =
    listIds settings .explicitDelete (observed.filter (role · = .explicit))

/-- The plan is made of two others, one after the other. -/
structure DeletePlan.Joins (plan left right : DeletePlan) : Prop where
  skipped : plan.report.skipped = left.report.skipped + right.report.skipped
  desired : plan.report.desired = left.report.desired + right.report.desired
  explicit : plan.report.explicit = left.report.explicit + right.report.explicit
  resources : plan.explicit = left.explicit ++ right.explicit
  skippedInfo : plan.report.skippedInfo = left.report.skippedInfo ++ right.report.skippedInfo
  desiredInfo : plan.report.desiredInfo = left.report.desiredInfo ++ right.report.desiredInfo
  explicitInfo : plan.report.explicitInfo = left.report.explicitInfo ++ right.report.explicitInfo

variable {settings : Settings} {role : Resource → DeleteRole}

/-- A plan made of roles has each resource in the list of its role, and counts what it lists. -/
theorem DeletePlan.sorts_ofRoles (settings : Settings) (kind : String)
    (role : Resource → DeleteRole) (observed : List Resource) :
    (ofRoles settings kind role observed).Sorts settings role observed where
  skipped := List.countP_eq_length_filter.symm
  desired := List.countP_eq_length_filter.symm
  explicit := List.countP_eq_length_filter.symm
  total := by
    show List.length _ + List.length _ + List.length _ = _
    simp only [← List.countP_eq_length_filter]
    exact DeleteRole.countP_add role observed
  resources := rfl
  phase := by
    show (if _ + _ = 0 then PlanPhase.skipped else PlanPhase.online) = _ ↔ 0 < _ + _
    split
    · next hzero => simp [ofRoles, hzero]
    · next hpos => exact iff_of_true rfl (Nat.pos_of_ne_zero hpos)
  skippedInfo := rfl
  desiredInfo := rfl
  explicitInfo := rfl

/-- The listed addresses of two lists are those of the one and then those of the other. -/
theorem listIds_append (settings : Settings) (category : Category) (rs rs' : List Resource) :
    listIds settings category (rs ++ rs') =
      listIds settings category rs ++ listIds settings category rs' := by
  unfold listIds
  split
  · exact List.map_append
  · rfl

/-- A plan that sorts a list by roles is made of those that sort its parts by the same roles. -/
theorem DeletePlan.Sorts.joins {plan left right : DeletePlan} {xs ys : List Resource}
    (h : plan.Sorts settings role (xs ++ ys)) (hleft : left.Sorts settings role xs)
    (hright : right.Sorts settings role ys) : plan.Joins left right where
  skipped := by rw [h.skipped, hleft.skipped, hright.skipped, List.countP_append]
  desired := by rw [h.desired, hleft.desired, hright.desired, List.countP_append]
  explicit := by rw [h.explicit, hleft.explicit, hright.explicit, List.countP_append]
  resources := by rw [h.resources, hleft.resources, hright.resources, List.filter_append]
  skippedInfo := by
    rw [h.skippedInfo, hleft.skippedInfo, hright.skippedInfo, List.filter_append, listIds_append]
  desiredInfo := by
    rw [h.desiredInfo, hleft.desiredInfo, hright.desiredInfo, List.filter_append, listIds_append]
  explicitInfo := by
    rw [h.explicitInfo, hleft.explicitInfo, hright.explicitInfo, List.filter_append,
      listIds_append]

/-- A deletion is planned just when its template is a resource with a type, and what is observed
    has no say in that.  Then the template gives every resource its role, the plan sorts what is
    observed by these roles, and the plan for one list after another is made of their plans. -/
theorem planDelete_partition (settings : Settings) (watch : Owner) (template : Document) :
    (∀ observed, (∃ plan, planDelete settings watch template observed = .ok plan) ↔
      ∃ t, Resource.decode template = .ok t ∧ t.apiVersion ≠ "" ∧ t.kind ≠ "") ∧
    ∀ t, Resource.decode template = .ok t → ∃ role,
      t.Assigns settings.separator watch role ∧
      (∀ observed plan, planDelete settings watch template observed = .ok plan →
        plan.Sorts settings role observed) ∧
      ∀ xs ys left right, planDelete settings watch template xs = .ok left →
        planDelete settings watch template ys = .ok right →
          ∃ plan, planDelete settings watch template (xs ++ ys) = .ok plan ∧
            plan.Joins left right := by
  -- The template decides alone, so a plan for one list is a plan for every other.
  have hplanned : ∀ observed, (∃ plan, planDelete settings watch template observed = .ok plan) ↔
      ∃ t, parseTemplate template = .ok t := by
    intro observed
    constructor
    · rintro ⟨plan, hplan⟩
      obtain ⟨t, ht, -⟩ := planDelete_eq_ok.mp hplan
      exact ⟨t, ht⟩
    · rintro ⟨t, ht⟩
      exact ⟨_, planDelete_eq_ok.mpr ⟨t, ht, rfl⟩⟩
  refine ⟨fun observed => ?_, fun t ht => ?_⟩
  · rw [hplanned]
    exact exists_congr fun t => parseTemplate_eq_ok
  · have hsorts : ∀ observed plan, planDelete settings watch template observed = .ok plan →
        plan.Sorts settings ((DeleteTarget.ofTemplate t).roleOf settings.separator watch)
          observed := by
      intro observed plan hplan
      obtain ⟨t', ht', rfl⟩ := planDelete_eq_ok.mp hplan
      obtain rfl := ok_unique ht (parseTemplate_eq_ok.mp ht').1
      exact DeletePlan.sorts_ofRoles _ _ _ _
    refine ⟨_, DeleteTarget.assigns_roleOf t settings.separator watch, hsorts, ?_⟩
    intro xs ys left right hleft hright
    obtain ⟨plan, hplan⟩ := (hplanned (xs ++ ys)).mpr ((hplanned xs).mp ⟨left, hleft⟩)
    exact ⟨plan, hplan, (hsorts _ _ hplan).joins (hsorts _ _ hleft) (hsorts _ _ hright)⟩

namespace SortedPods

/-- A template of a pod. -/
def template : Document :=
  .obj [("apiVersion", .str "v1"), ("kind", .str "Pod"),
    ("metadata", .obj [("name", .str "web"), ("namespace", .str "a")])]

/-- A pod of this namespace and name, without any annotations. -/
def pod (namespaceName name : String) : Resource :=
  ⟨"v1", "Pod",
    { Metadata.empty with name := some name, namespaceName := some namespaceName }, []⟩

/-- Who deletes the pods. -/
def watch : Owner := Owner.watch "w-uid" "w"

/-- A pod that the watch has created. -/
def created : Resource := (pod "a" "web").withProvenance ⟨watch, none, none⟩

end SortedPods

open SortedPods in
/-- The pod of the watch, a pod of nobody with a numbered name, a pod whose name merely begins
    with the base name, and one in another namespace. -/
theorem planDelete_partition_pods :
    ∃ t role plan, Resource.decode template = .ok t ∧
      planDelete Settings.default watch template
        [created, pod "a" "web-0", pod "a" "webby", pod "b" "web-1"] = .ok plan ∧
      (role created = .desired ∧ role (pod "a" "web-0") = .explicit ∧
        role (pod "a" "webby") = .skipped ∧ role (pod "b" "web-1") = .skipped) ∧
      plan.Sorts Settings.default role
        [created, pod "a" "web-0", pod "a" "webby", pod "b" "web-1"] := by
  obtain ⟨hplanned, hsorted⟩ := planDelete_partition Settings.default watch template
  have hdecode : Resource.decode template = .ok (pod "a" "web") := rfl
  obtain ⟨plan, hplan⟩ :=
    (hplanned [created, pod "a" "web-0", pod "a" "webby", pod "b" "web-1"]).mpr
      ⟨pod "a" "web", hdecode, by decide, by decide⟩
  obtain ⟨role, hassigns, hsorts, -⟩ := hsorted (pod "a" "web") hdecode
  refine ⟨_, role, plan, hdecode, hplan, ⟨?_, ?_, ?_, ?_⟩, hsorts _ _ hplan⟩
  · -- Covered by its name and created by the watch.
    exact (hassigns.desired _).mpr ⟨DeleteTarget.covers_ofTemplate_eq_true.mp rfl, rfl⟩
  · -- Covered, and created by another one.
    exact (hassigns.explicit _).mpr ⟨DeleteTarget.covers_ofTemplate_eq_true.mp rfl, rfl⟩
  · -- Its name goes on without the separator, or its namespace is another one.
    exact (hassigns.skipped _).mpr (DeleteTarget.covers_ofTemplate_eq_false.mp rfl)
  · exact (hassigns.skipped _).mpr (DeleteTarget.covers_ofTemplate_eq_false.mp rfl)

end Reconciler
