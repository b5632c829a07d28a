import Reconciler.Proofs.Plan.Template
import Reconciler.Proofs.Plan.Update
import Reconciler.Proofs.Task.Listing

namespace Reconciler

/-!
# Plans over resources in another order

A plan goes through the observed resources one by one.  Over the same resources in another
order it returns the same resources and lists the same entries, in another order, and nothing
else about it changes.  An update that fails may fail at another resource.

* `DeleteReport.Reorders`, `UpdateReport.Reorders` — reports with their entries in another
  order;
* `planDelete_perm`, `planUpdate_perm`, `planTemplate_perm` — the same, for each plan.
-/

variable {settings : Settings} {observed observed' : List Resource}

/-! ### Deletions -/

/-- The reports differ in the order of their entries at most. -/
structure DeleteReport.Reorders (r r' : DeleteReport) : Prop where
  rest : r.withoutLists = r'.withoutLists
  skippedInfo : r.skippedInfo.Perm r'.skippedInfo
  desiredInfo : r.desiredInfo.Perm r'.desiredInfo
  explicitInfo : r.explicitInfo.Perm r'.explicitInfo

theorem DeleteReport.Reorders.phase_eq {r r' : DeleteReport} (h : r.Reorders r') :
    r.phase = r'.phase := by
  have hrest := congrArg DeleteReport.phase h.rest
  exact hrest

/-- Reports that differ in order have one message, since it tells only how many there are. -/
theorem DeleteReport.Reorders.message_eq {r r' : DeleteReport} (h : r.Reorders r') :
    r.message = r'.message := by
  have hrest := congrArg DeleteReport.message h.rest
  exact hrest

/-- The plans differ in the order of their resources and of their entries at most. -/
structure DeletePlan.Reorders (p p' : DeletePlan) : Prop where
  explicit : p.explicit.Perm p'.explicit
  report : p.report.Reorders p'.report

/-- The listed addresses come in the order of their resources. -/
theorem listIds_perm (settings : Settings) (category : Category) {rs rs' : List Resource}
    (h : rs.Perm rs') : (listIds settings category rs).Perm (listIds settings category rs') := by
  unfold listIds
  split
  · exact h.map _
  · exact .refl _

/-- Roles are given to one resource at a time, so another order gives the same plan in another
    order. -/
theorem DeletePlan.ofRoles_perm (kind : String) (role : Resource → DeleteRole)
    (h : observed.Perm observed') :
    (ofRoles settings kind role observed).Reorders (ofRoles settings kind role observed') := by
  have hrole : ∀ part : DeleteRole,
      (observed.filter (role · = part)).Perm (observed'.filter (role · = part)) :=
    fun part => h.filter _
  refine ⟨hrole .explicit, ?_, ?_, ?_, ?_⟩
  · simp only [ofRoles, DeleteReport.withoutLists, (hrole _).length_eq]
  · exact listIds_perm _ _ (hrole .skipped)
  · exact listIds_perm _ _ (hrole .desired)
  · exact listIds_perm _ _ (hrole .explicit)

/-- A deletion plans the same in any order of the observed resources. -/
theorem planDelete_perm (settings : Settings) (watch : Owner) (template : Document)
    (h : observed.Perm observed') :
    Alike DeletePlan.Reorders (planDelete settings watch template observed)
      (planDelete settings watch template observed') :=
  alike_bind (parseTemplate template) fun r _ => alike_pure (DeletePlan.ofRoles_perm r.kind _ h)

/-! ### Updates -/

/-- The reports differ in the order of their entries at most. -/
structure UpdateReport.Reorders (r r' : UpdateReport) : Prop where
  rest : r.withoutLists = r'.withoutLists
  desiredInfo : r.desiredInfo.Perm r'.desiredInfo
  explicitInfo : r.explicitInfo.Perm r'.explicitInfo

theorem UpdateReport.Reorders.phase_eq {r r' : UpdateReport} (h : r.Reorders r') :
    r.phase = r'.phase := by
  have hrest := congrArg UpdateReport.phase h.rest
  exact hrest

theorem UpdateReport.Reorders.message_eq {r r' : UpdateReport} (h : r.Reorders r') :
    r.message = r'.message := by
  have hrest := congrArg UpdateReport.message h.rest
  exact hrest

/-- The plans differ in the order of their resources and of their entries at most. -/
structure UpdatePlan.Reorders (p p' : UpdatePlan) : Prop where
  desired : p.desired.Perm p'.desired
  explicit : p.explicit.Perm p'.explicit
  report : p.report.Reorders p'.report

theorem listUpdates_perm (settings : Settings) (category : Category) {us us' : List Updated}
    (h : us.Perm us') :
    (listUpdates settings category us).Perm (listUpdates settings category us') := by
  unfold listUpdates
  split
  · exact h.map _
  · exact .refl _

/-- Updates in another order are filed in another order. -/
theorem UpdatePlan.ofUpdates_perm {us us' : List Updated} (h : us.Perm us') :
    (ofUpdates settings us).Reorders (ofUpdates settings us') := by
  have hdesired : (us.filter (·.owned)).Perm (us'.filter (·.owned)) := h.filter _
  have hexplicit : (us.filter (!·.owned)).Perm (us'.filter (!·.owned)) := h.filter _
  unfold ofUpdates
  rw [h.isEmpty_eq]
  split
  · -- Both plans are the one for no resources.
    exact ⟨.refl _, .refl _, rfl, .refl _, .refl _⟩
  · refine ⟨hdesired.map _, hexplicit.map _, ?_, ?_, ?_⟩
    · simp only [UpdateReport.withoutLists, hdesired.length_eq, hexplicit.length_eq]
    · exact listUpdates_perm _ _ hdesired
    · exact listUpdates_perm _ _ hexplicit

/-- An update plans the same in any order of the observed resources, or fails in both, though
    perhaps at another one of them. -/
theorem planUpdate_perm (settings : Settings) (merger : Merger) (watch : Owner) (patch : Document)
    (target : Selector) (h : observed.Perm observed') :
    Alike UpdatePlan.Reorders (planUpdate settings merger watch patch target observed)
      (planUpdate settings merger watch patch target observed') := by
  rw [planUpdate_eq, planUpdate_eq]
  refine alike_bind _ fun selector _ => ?_
  -- The merges are the same ones, unless one fails; then each update fails at its first.
  refine (alike_mapM _ (h.filter selector.accepts)).bind fun updates updates' hupdates => ?_
  exact alike_pure (UpdatePlan.ofUpdates_perm hupdates)

/-! ### Templates -/

/-- The plans are one creation, or deletions that differ in their order at most. -/
inductive TemplatePlan.Reorders : TemplatePlan → TemplatePlan → Prop
  | created (plan : CreatePlan) : Reorders (.created plan) (.created plan)
  | deleted {plan plan' : DeletePlan} (h : plan.Reorders plan') :
      Reorders (.deleted plan) (.deleted plan')

/-- A template plans the same in any order of the observed resources, be it a creation or not. -/
theorem planTemplate_perm (settings : Settings) (provenance : Provenance) (template : Document)
    (replicas : Option UInt32) (h : observed.Perm observed') :
    Alike TemplatePlan.Reorders (planTemplate settings provenance template replicas observed)
      (planTemplate settings provenance template replicas observed') := by
  unfold planTemplate
  split
  · exact (planDelete_perm settings provenance.watch template h).map fun _ _ => .deleted
  · -- A creation does not look at the observed resources.
    cases planCreate settings provenance template (replicas.getD 1) with
    | error e => exact .failed e e
    | ok plan => exact .succeeded (.created plan)

end Reconciler
