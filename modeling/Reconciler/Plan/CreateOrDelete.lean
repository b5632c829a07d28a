import Reconciler.Plan.Delete

namespace Reconciler

/-!
# Creating or deleting

A template without a target either asks for its replicas or for a deletion.

* `TemplatePlan` — one of the two plans;
* `planTemplate` — the plan that a template asks for.
-/

/-- A plan for a template. -/
inductive TemplatePlan where
  | created (plan : CreatePlan)
  | deleted (plan : DeletePlan)

/-- Deletes what a template means if it asks for that, and else creates its
    replicas, one if it does not say how many. -/
def planTemplate (settings : Settings) (provenance : Provenance) (template : Document)
    (replicas : Option UInt32) (observed : List Resource) : Except PlanError TemplatePlan :=
  if isDeleteIntent template replicas then
    (planDelete settings provenance.watch template observed).map .deleted
  else
    (planCreate settings provenance template (replicas.getD 1)).map .created

end Reconciler
