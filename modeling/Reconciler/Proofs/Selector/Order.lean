import Reconciler.Proofs.Selector.Scan

namespace Reconciler

/-!
# Conditions over resources in another order

A condition with the operator "exists" looks at the resources up to the first one that its
selector picks, and an assertion looks at its conditions up to the first one that settles it.
Where a scan ends depends on the order of the resources, but no answer does.

* `Condition.success_evaluate` — a condition is answered by the number of selected resources;
* `Assertion.evaluate_perm` — an assertion is answered alike, after as many conditions.
-/

variable {rs rs' : List Resource}

namespace Condition

/-- The answer to a condition is what its operator says of the number of selected resources. -/
theorem success_evaluate (c : Condition) (rs : List Resource) :
    (c.evaluate rs).map (·.success) = (do
      c.validate
      if rs.isEmpty then throw (.noCandidates 1)
      let s ← c.selector.compile
      return c.holds (rs.countP s.accepts)) := by
  -- A scan that stops early has counted enough to decide.
  have hscan : ∀ s : CompiledSelector,
      c.holds (scan s (c.operator == .exist) 0 rs).1.length = c.holds (rs.countP s.accepts) := by
    intro s
    rw [scan_eq_reported, holds_reported, List.length_findIdxs]
  unfold evaluate
  cases c.validate with
  | error e => rfl
  | ok _ =>
    by_cases hempty : rs.isEmpty = true
    · simp only [hempty, if_true]
      rfl
    · simp only [hempty, if_false, Bool.false_eq_true]
      cases c.selector.compile with
      | error e => rfl
      | ok s => exact congrArg Except.ok (hscan s)

/-- Whether a condition is met, or has an error, does not depend on the order of the resources. -/
theorem success_evaluate_perm (c : Condition) (h : rs.Perm rs') :
    (c.evaluate rs').map (·.success) = (c.evaluate rs).map (·.success) := by
  simp only [success_evaluate, h.isEmpty_eq, h.countP_eq]

end Condition

namespace Assertion

/-- Of the answer to a condition only its success decides how an assertion goes on. -/
theorem settle_cons (decisive : Bool) (rs : List Resource) (before : Nat) (c : Condition)
    (rest : List Condition) :
    settle decisive rs before (c :: rest) = (do
      if (← (c.evaluate rs).map (·.success)) = decisive then return ⟨decisive, before + 1⟩
      else settle decisive rs (before + 1) rest) := by
  rw [settle]
  cases c.evaluate rs <;> rfl

/-- The conditions are settled in their own order, which is not that of the resources. -/
theorem settle_perm (decisive : Bool) (before : Nat) (cs : List Condition) (h : rs.Perm rs') :
    settle decisive rs' before cs = settle decisive rs before cs := by
  induction cs generalizing before with
  | nil => rfl
  | cons c rest ih => rw [settle_cons, settle_cons, c.success_evaluate_perm h, ih]

/-- An assertion is answered alike over the same resources in another order.  This includes
    its failure, and the number of conditions that it takes. -/
theorem evaluate_perm (a : Assertion) (h : rs.Perm rs') : a.evaluate rs' = a.evaluate rs := by
  unfold evaluate
  rw [settle_perm a.junction.decisive 0 a.conditions h, h.isEmpty_eq]

end Assertion

end Reconciler
