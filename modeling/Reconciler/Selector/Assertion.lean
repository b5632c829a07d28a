import Reconciler.Selector.Condition

namespace Reconciler

/-!
# Assertions

An assertion joins conditions by "or" or by "and".  It succeeds when it has none.

* `Assertion` — the conditions and how they are joined;
* `Assertion.validate` — the first fault of a condition;
* `Assertion.evaluate` — the answer, found by as few conditions as decide it;
* `AssertionOutcome` — the answer.
-/

/-- How conditions are joined. -/
inductive Junction where
  | any
  | all
deriving DecidableEq, Repr

namespace Junction

/-- The junctions with their names. -/
def names : List (String × Junction) :=
  [("OR", any), ("AND", all)]

/-- The name of a junction. -/
def name : Junction → String
  | any => "OR"
  | all => "AND"

/-- The answer of one condition that settles the whole. -/
def decisive : Junction → Bool
  | any => true
  | all => false

end Junction

/-- Conditions joined by "or" or by "and". -/
structure Assertion where
  junction : Junction
  conditions : List Condition
deriving DecidableEq

/-- The answer to an assertion. -/
structure AssertionOutcome where
  success : Bool
  /-- The number of conditions that were evaluated. -/
  evaluated : Nat
deriving DecidableEq, Repr

namespace Assertion

/-- The first fault of a condition. -/
def validate (a : Assertion) : Except SelectError Unit :=
  a.conditions.forM Condition.validate

/-- Evaluates conditions up to the first one with the decisive answer; `before`
    counts those evaluated already. -/
def settle (decisive : Bool) (resources : List Resource) (before : Nat) :
    List Condition → Except SelectError AssertionOutcome
  | [] => .ok ⟨!decisive, before⟩
  | c :: rest => do
    let outcome ← c.evaluate resources
    if outcome.success = decisive then return ⟨decisive, before + 1⟩
    else settle decisive resources (before + 1) rest

/-- Answers an assertion.  All conditions are validated before any is evaluated. -/
def evaluate (a : Assertion) (resources : List Resource) : Except SelectError AssertionOutcome := do
  if a.conditions.isEmpty then return ⟨true, 0⟩
  a.validate
  if resources.isEmpty then throw (.noCandidates a.conditions.length)
  settle a.junction.decisive resources 0 a.conditions

end Assertion

/-! ### Wire form -/

open Wire

/-- Reads an assertion; conditions are joined by "or" unless it says otherwise. -/
def Assertion.decode : Decoder Assertion :=
  record "Assert" <|
    Assertion.mk <$> withDefault "operator" (variant Junction.names) .any
      <*> withDefault "conditions" (list Condition.decode) []

/-- Writes an assertion. -/
def Assertion.encode (a : Assertion) : Document :=
  ofParts [("conditions", some (.arr (a.conditions.map Condition.encode))),
    ("operator", some (.str a.junction.name))]

end Reconciler
