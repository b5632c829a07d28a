import Reconciler.Selector.Basic

namespace Reconciler

/-!
# Conditions

A condition asks how many of the given resources a selector picks.

* `Condition` — the selector, the operator and the count it compares with;
* `Condition.validate` — what is wrong with a condition, whatever the resources;
* `Condition.evaluate` — the answer over a list of resources;
* `ConditionOutcome` — the answer.
-/

/-- A question about the number of selected resources. -/
structure Condition where
  selector : Selector
  operator : CountOperator
  count : Option Int64
deriving DecidableEq

/-- The answer to a condition. -/
structure ConditionOutcome where
  success : Bool
  /-- The positions of the selected resources. -/
  matched : List Nat
  /-- The number of resources looked at. -/
  evaluated : Nat
deriving DecidableEq, Repr

namespace Condition

/-- The condition that some resource is selected. -/
def ofSelector (selector : Selector) : Condition := ⟨selector, .exist, none⟩

/-- A selector needs a term, a comparing operator a count, and a count must not be
    negative. -/
def validate (c : Condition) : Except SelectError Unit :=
  if c.selector.terms.isEmpty then .error .emptySelector
  else
    match c.count with
    | none => if c.operator.needsCount then .error (.missingCount c.operator) else .ok ()
    | some n => if n < 0 then .error (.negativeCount n) else .ok ()

/-- The operator holds of `n` selected resources; a missing count is zero. -/
def holds (c : Condition) (n : Nat) : Bool :=
  let count := (c.count.getD 0).toInt
  match c.operator with
  | .exist => n > 0
  | .notExist => n == 0
  | .equalsCount => (n : Int) == count
  | .atLeast => (n : Int) ≥ count
  | .atMost => (n : Int) ≤ count

/-- The positions of accepted resources and the number of resources looked at.
    `pos` is the position of the first one; with `firstOnly` the scan ends at the
    first accepted resource. -/
def scan (s : CompiledSelector) (firstOnly : Bool) (pos : Nat) : List Resource → List Nat × Nat
  | [] => ([], pos)
  | r :: rest =>
    if s.accepts r then
      if firstOnly then ([pos], pos + 1)
      else
        let (matched, evaluated) := scan s firstOnly (pos + 1) rest
        (pos :: matched, evaluated)
    else scan s firstOnly (pos + 1) rest

/-- Answers a condition over resources, of which there must be one. -/
def evaluate (c : Condition) (resources : List Resource) : Except SelectError ConditionOutcome := do
  c.validate
  if resources.isEmpty then throw (.noCandidates 1)
  let s ← c.selector.compile
  let (matched, evaluated) := scan s (c.operator == .exist) 0 resources
  return ⟨c.holds matched.length, matched, evaluated⟩

end Condition

/-! ### Wire form -/

open Wire

/-- Reads a condition; without an operator it asks for some resource. -/
def Condition.decode : Decoder Condition :=
  record "Condition" <|
    Condition.mk <$> required "resourceSelector" Selector.decode
      <*> withDefault "operator" (variant CountOperator.names) .exist
      <*> omittable "count" int64

/-- Writes a condition. -/
def Condition.encode (c : Condition) : Document :=
  ofParts [("count", c.count.map (.int ·.toInt)), ("operator", some (.str c.operator.name)),
    ("resourceSelector", some c.selector.encode)]

end Reconciler
