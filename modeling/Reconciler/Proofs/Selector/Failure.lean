import Reconciler.Proofs.Selector.Matching
import Reconciler.Selector.Assertion

namespace Reconciler

/-!
# Why a condition has no answer

A condition is validated before it is evaluated.  What is left to fail after that is a question
to no resources, and a field path that does not read.

* `checkAsked_eq_error`, `checkAsked_eq_ok` — a question is checked, and asked where there are
  resources;
* `Selector.Unreadable` — a field path of the selector does not read;
* `Condition.Valid`, `Condition.validate_eq_ok` — the conditions that pass their validation;
* `Condition.Valid.holds_fill` — such a condition never falls back on a count that is not its own;
* `Condition.evaluate_eq_error` — its failures, in their order;
* `Assertion.validate_eq_ok` — the validation of all conditions of an assertion.
-/

variable {rs : List Resource} {e : SelectError}

/-! ### Questions to resources -/

/-- A question is checked first, then it needs resources, and then it is answered. -/
theorem checkAsked_eq_error {α : Type} {check : Except SelectError Unit} {n : Nat}
    {answer : Except SelectError α} :
    (do
      check
      if rs.isEmpty then throw (SelectError.noCandidates n)
      answer) = .error e ↔
      check = .error e ∨
        check = .ok () ∧ (rs = [] ∧ e = .noCandidates n ∨ rs ≠ [] ∧ answer = .error e) := by
  cases check with
  | error e' => simp [bind, Except.bind]
  | ok _ =>
    cases rs with
    | nil => simp [bind, Except.bind, throw, throwThe, MonadExceptOf.throw, eq_comm]
    | cons r rs => simp [bind, Except.bind]

/-- A question has an answer when the check passes and there are resources to ask about. -/
theorem checkAsked_eq_ok {α : Type} {check : Except SelectError Unit} {n : Nat}
    {answer : Except SelectError α} {a : α} :
    (do
      check
      if rs.isEmpty then throw (SelectError.noCandidates n)
      answer) = .ok a ↔
      check = .ok () ∧ rs ≠ [] ∧ answer = .ok a := by
  cases check with
  | error e' => simp [bind, Except.bind]
  | ok _ =>
    cases rs with
    | nil => simp [bind, Except.bind, throw, throwThe, MonadExceptOf.throw]
    | cons r rs => simp [bind, Except.bind]

/-! ### Selectors -/

/-- The selector asks for the value of a field by a path that does not read. -/
def Selector.Unreadable (s : Selector) (path : String) (fault : PathError) : Prop :=
  ∃ t ∈ s.terms, ∃ expected,
    t.fields.get? path = some expected ∧ FieldPath.parse path = .error fault

/-- A selector that has a term fails for the sake of a path alone. -/
theorem Selector.unreadable_of_compile {s : Selector} (hterms : s.terms ≠ [])
    (h : s.compile = .error e) :
    ∃ path fault, s.Unreadable path fault ∧ e = .field path fault := by
  cases Selector.compile_eq_error.mp h with
  | empty hnil => exact absurd hnil hterms
  | term hsplit _ hfault =>
    obtain ⟨path, expected, fault, hget, hparse, rfl⟩ := hfault.exists_get?
    exact ⟨path, fault, ⟨_, by simp [hsplit], expected, hget, hparse⟩, rfl⟩

namespace Condition

variable {c : Condition}

/-! ### Conditions -/

/-- The condition has a term to select by, and a count where its operator compares with one; the
    count is not negative. -/
structure Valid (c : Condition) : Prop where
  terms : c.selector.terms ≠ []
  count : c.operator.needsCount = true → ∃ n, c.count = some n
  nonneg : ∀ n, c.count = some n → 0 ≤ n

/-- A condition is accepted iff it is valid. -/
theorem validate_eq_ok : c.validate = .ok () ↔ c.Valid := by
  unfold validate
  by_cases hterms : c.selector.terms = []
  · have hinvalid : ¬ c.Valid := fun h => h.terms hterms
    simp [hterms, hinvalid]
  · rw [if_neg (by simpa using hterms)]
    -- A count must be there for some operators, and it must not be negative for any.
    cases hcount : c.count with
    | none =>
      dsimp only
      constructor
      · intro h
        have hneeds : c.operator.needsCount = false := by simpa using h
        exact ⟨hterms, by simp [hneeds], by simp [hcount]⟩
      · intro h
        have hneeds : c.operator.needsCount = false := by
          rw [Bool.eq_false_iff]
          intro hneeds
          obtain ⟨n, hn⟩ := h.count hneeds
          rw [hcount] at hn
          cases hn
        simp [hneeds]
    | some n =>
      dsimp only
      constructor
      · intro h
        have hnonneg : ¬ n < 0 := by simpa using h
        refine ⟨hterms, fun _ => ⟨n, hcount⟩, fun m hm => ?_⟩
        rw [hcount] at hm
        obtain rfl := Option.some.inj hm
        exact Int64.not_lt.mp hnonneg
      · intro h
        rw [if_neg (Int64.not_lt.mpr (h.nonneg n hcount))]

/-- The condition with a count put in where it has none. -/
def fill (c : Condition) (fallback : Int64) : Condition :=
  { c with count := some (c.count.getD fallback) }

/-- Whatever is put in where a valid condition has no count, its answer is the same. -/
theorem Valid.holds_fill (h : c.Valid) (fallback : Int64) (n : Nat) :
    (c.fill fallback).holds n = c.holds n := by
  cases hneeds : c.operator.needsCount with
  | true =>
    obtain ⟨k, hk⟩ := h.count hneeds
    simp only [holds, fill, hk, Option.getD_some]
  | false =>
    -- An operator that compares with no count asks for some resource, or for none.
    cases hop : c.operator with
    | exist => simp only [holds, fill, hop]
    | notExist => simp only [holds, fill, hop]
    | equalsCount => simp [hop, CountOperator.needsCount] at hneeds
    | atLeast => simp [hop, CountOperator.needsCount] at hneeds
    | atMost => simp [hop, CountOperator.needsCount] at hneeds

/-- A condition fails for itself, for want of resources, or for its selector, in this order. -/
theorem evaluate_eq_error :
    c.evaluate rs = .error e ↔
      c.validate = .error e ∨
        c.Valid ∧ (rs = [] ∧ e = .noCandidates 1 ∨ rs ≠ [] ∧ c.selector.compile = .error e) := by
  rw [evaluate, checkAsked_eq_error, validate_eq_ok, bind_eq_error_of_ok]
  exact fun _ => ⟨_, rfl⟩

end Condition

theorem Assertion.validate_eq_ok {a : Assertion} :
    a.validate = .ok () ↔ ∀ c ∈ a.conditions, c.Valid := by
  simp only [Assertion.validate, forM_eq_ok, Condition.validate_eq_ok]

end Reconciler
