import Reconciler.Proofs.Selector.Failure
import Reconciler.Task.Basic

namespace Reconciler.Task

/-!
# Which tasks are valid

* `WellShaped`, `validateShape_eq_ok` — the members that stand together;
* `WellAsked`, `validateConditions_eq_ok` — the conditions and the target;
* `validateReplicas_eq_ok` — the number of replicas, cast without a change;
* `validate_eq_ok` — a valid task, and its number of replicas;
* `Valid`, `validate_accepts` — the valid tasks, said without the order of the tests.
-/

variable {t : Task} {settings : Settings} {replicas : Option UInt32}

/-- The task has a key, and either an assertion or a document.  A target stands with a document
    and without replicas, and an assertion has no replicas either. -/
structure WellShaped (t : Task) : Prop where
  key : Text.allBlank t.key = false
  work : t.assert.isSome ≠ t.apply.isSome
  target : t.target.isSome = true → t.apply.isSome = true ∧ t.replicas.isSome = false
  replicas : t.assert.isSome = true → t.replicas.isSome = false

/-- A target comes with a document, so there is none beside an assertion. -/
theorem WellShaped.assert_alone (h : t.WellShaped) (htarget : t.target.isSome = true) :
    t.assert.isSome = false := by
  have happly := (h.target htarget).1
  have hwork := h.work
  rw [happly] at hwork
  exact Bool.eq_false_iff.mpr hwork

/-- The first tests accept the tasks that are well shaped. -/
theorem validateShape_eq_ok : t.validateShape = .ok () ↔ t.WellShaped := by
  unfold validateShape
  constructor
  · intro h
    -- All tests have to be passed.
    split_ifs at h with hkey _ hbare hwork htarget hassert
    refine ⟨Bool.eq_false_iff.mpr hkey, by simpa using hwork, fun h => ⟨?_, ?_⟩, fun h => ?_⟩
    · rw [Option.isSome_iff_ne_none]
      simpa [h] using hbare
    · simpa [h] using htarget
    · simpa [h] using hassert
  · intro h
    have hassertTarget : ¬(t.assert.isSome && t.target.isSome) = true := by
      rw [Bool.and_eq_true]
      rintro ⟨hassert, htarget⟩
      rw [h.assert_alone htarget] at hassert
      cases hassert
    have hbare : ¬(t.target.isSome && t.apply.isNone) = true := by
      rw [Bool.and_eq_true]
      rintro ⟨htarget, hnone⟩
      have happly := (h.target htarget).1
      rw [Option.isNone_iff_eq_none.mp hnone] at happly
      cases happly
    have htarget : ¬(t.target.isSome && t.replicas.isSome) = true := by
      rw [Bool.and_eq_true]
      rintro ⟨htarget, hsome⟩
      rw [(h.target htarget).2] at hsome
      cases hsome
    have hassert : ¬(t.assert.isSome && t.replicas.isSome) = true := by
      rw [Bool.and_eq_true]
      rintro ⟨hassert, hsome⟩
      rw [h.replicas hassert] at hsome
      cases hsome
    have hwork : ¬(t.assert.isSome == t.apply.isSome) = true := by simpa using h.work
    rw [if_neg (by simp [h.key]), if_neg hassertTarget, if_neg hbare, if_neg hwork,
      if_neg htarget, if_neg hassert]

/-- The conditions of the guard and of the assertion are valid, and the target has a term. -/
structure WellAsked (t : Task) : Prop where
  guard : ∀ a, t.guard = some a → ∀ c ∈ a.conditions, c.Valid
  assert : ∀ a, t.assert = some a → ∀ c ∈ a.conditions, c.Valid
  target : ∀ s, t.target = some s → s.terms ≠ []

/-- The condition that some resource is selected needs a term and no count. -/
theorem valid_ofSelector {s : Selector} : (Condition.ofSelector s).Valid ↔ s.terms ≠ [] := by
  constructor
  · exact Condition.Valid.terms
  · intro hterms
    exact ⟨hterms, nofun, nofun⟩

theorem validateConditions_eq_ok : t.validateConditions = .ok () ↔ t.WellAsked := by
  simp only [validateConditions, check_eq_ok, option_forM_eq_ok, Assertion.validate_eq_ok,
    Condition.validate_eq_ok, valid_ofSelector]
  constructor
  · rintro ⟨hguard, hassert, htarget⟩
    exact ⟨hguard, hassert, htarget⟩
  · rintro ⟨hguard, hassert, htarget⟩
    exact ⟨hguard, hassert, htarget⟩

/-! ### The number of replicas -/

/-- Without a sign, a number that is not negative is the same number. -/
theorem toNat_toUInt32_of_nonneg {n : Int32} (h : 0 ≤ n) : (n.toUInt32.toNat : Int) = n.toInt := by
  rw [Int32.toNat_toUInt32_of_le h, Int32.toInt_eq_toNatClampNeg h]

/-- A number passes when it lies between zero and the limit, and then it is returned as it is. -/
theorem validateReplicas_eq_ok {limit : UInt32} :
    t.validateReplicas limit = .ok replicas ↔
      (∀ n, t.replicas = some n → 0 ≤ n.toInt ∧ n.toInt ≤ limit.toNat) ∧
        replicas.map (fun n => (n.toNat : Int)) = t.replicas.map Int32.toInt := by
  unfold validateReplicas
  cases ht : t.replicas with
  | none =>
    have hnone : replicas.map (fun n => (n.toNat : Int)) = none ↔ replicas = none := by simp
    simp [hnone, eq_comm]
  | some n =>
    simp only [Option.some.injEq, forall_eq', Option.map_some]
    by_cases hneg : n < 0
    · have hnot : ¬ 0 ≤ n.toInt := by
        have := Int32.lt_iff_toInt_lt.mp hneg
        rw [Int32.toInt_zero] at this
        omega
      simp [hneg, hnot]
    · have hnonneg : 0 ≤ n := Int32.not_lt.mp hneg
      have hzero : 0 ≤ n.toInt := Int32.le_iff_toInt_le.mp hnonneg
      have hcast := toNat_toUInt32_of_nonneg hnonneg
      rw [if_neg hneg]
      by_cases hover : n.toUInt32 > limit
      · have hnot : ¬ n.toInt ≤ limit.toNat := by
          have := UInt32.lt_iff_toNat_lt.mp hover
          omega
        simp [hover, hnot]
      · have hlimit : n.toInt ≤ limit.toNat := by
          have := UInt32.le_iff_toNat_le.mp (UInt32.not_lt.mp hover)
          omega
        rw [if_neg hover, Except.ok.injEq]
        constructor
        · rintro rfl
          exact ⟨⟨hzero, hlimit⟩, congrArg some hcast⟩
        · rintro ⟨-, hreplicas⟩
          obtain ⟨k, rfl, hk⟩ := Option.map_eq_some_iff.mp hreplicas
          -- The cast is injective on the numbers that are not negative.
          have hsame : n.toUInt32.toNat = k.toNat := by omega
          rw [UInt32.toNat_inj.mp hsame]

/-! ### The whole task -/

/-- A valid task has its members in order and as many replicas as it says. -/
theorem validate_eq_ok :
    t.validate settings = .ok replicas ↔
      t.WellShaped ∧ t.WellAsked ∧ t.validateReplicas settings.maxReplicas = .ok replicas := by
  simp only [validate, check_eq_ok, mapError_eq_ok, validateShape_eq_ok, validateConditions_eq_ok]

/-- The tasks without a fault: the key says something, the task either asserts or applies, a
    target and an assertion leave no room for replicas, every condition has its terms and its
    count, and the replicas stay within the limit. -/
structure Valid (t : Task) (limit : UInt32) : Prop where
  key : ∃ c ∈ t.key.toList, Text.isBlank c = false
  work : Xor (t.assert.isSome = true) (t.apply.isSome = true)
  target : t.target.isSome = true → t.apply.isSome = true ∧ t.replicas = none
  assert : t.assert.isSome = true → t.replicas = none
  conditions : ∀ a, t.guard = some a ∨ t.assert = some a → ∀ c ∈ a.conditions, c.Valid
  terms : ∀ s, t.target = some s → s.terms ≠ []
  replicas : ∀ n, t.replicas = some n → 0 ≤ n.toInt ∧ n.toInt ≤ limit.toNat

/-- A text is not blank iff some character of it is not. -/
theorem not_allBlank {s : String} :
    Text.allBlank s = false ↔ ∃ c ∈ s.toList, Text.isBlank c = false := by
  rw [Text.allBlank, List.all_eq_false]
  simp only [Bool.not_eq_true]

/-- The tests ask for the members, for the conditions and for the replicas, one after the other. -/
theorem valid_iff {limit : UInt32} :
    t.Valid limit ↔ t.WellShaped ∧ t.WellAsked ∧
      ∀ n, t.replicas = some n → 0 ≤ n.toInt ∧ n.toInt ≤ limit.toNat := by
  -- Exactly one kind of work is to be done: the program compares whether they are there.
  have hwork : Xor (t.assert.isSome = true) (t.apply.isSome = true) ↔
      t.assert.isSome ≠ t.apply.isSome := by
    cases t.assert.isSome <;> cases t.apply.isSome <;> simp [Xor]
  have hnone : t.replicas = none ↔ t.replicas.isSome = false := by simp
  constructor
  · intro h
    have hshape : t.WellShaped :=
      { key := not_allBlank.mpr h.key
        work := hwork.mp h.work
        target := by simpa only [hnone] using h.target
        replicas := by simpa only [hnone] using h.assert }
    have hasked : t.WellAsked :=
      { guard := fun a ha => h.conditions a (.inl ha)
        assert := fun a ha => h.conditions a (.inr ha)
        target := h.terms }
    exact ⟨hshape, hasked, h.replicas⟩
  · rintro ⟨hshape, hasked, hreplicas⟩
    exact
      { key := not_allBlank.mp hshape.key
        work := hwork.mpr hshape.work
        target := by simpa only [hnone] using hshape.target
        assert := by simpa only [hnone] using hshape.replicas
        conditions := fun a ha => ha.elim (hasked.guard a) (hasked.assert a)
        terms := hasked.target
        replicas := hreplicas }

/-- The validation returns a number just when the number is the one of a valid task, with or
    without a sign. -/
theorem validate_eq_ok_iff_valid :
    t.validate settings = .ok replicas ↔
      t.Valid settings.maxReplicas ∧
        replicas.map (fun n => (n.toNat : Int)) = t.replicas.map Int32.toInt := by
  rw [validate_eq_ok, validateReplicas_eq_ok, valid_iff]
  simp only [and_assoc]

/-- The replicas of a valid task can be written without a sign. -/
theorem Valid.exists_replicas {limit : UInt32} (h : t.Valid limit) :
    ∃ replicas : Option UInt32,
      replicas.map (fun n => (n.toNat : Int)) = t.replicas.map Int32.toInt := by
  cases hreplicas : t.replicas with
  | none => exact ⟨none, rfl⟩
  | some n =>
    have hnonneg : 0 ≤ n := Int32.le_iff_toInt_le.mpr (h.replicas n hreplicas).1
    exact ⟨some n.toUInt32, congrArg some (toNat_toUInt32_of_nonneg hnonneg)⟩

/-- The validation accepts the valid tasks and no other, and what it returns is the number of
    replicas as the task has it, or none. -/
theorem validate_accepts (t : Task) (settings : Settings) :
    ((∃ replicas, t.validate settings = .ok replicas) ↔ t.Valid settings.maxReplicas) ∧
      ∀ replicas, t.validate settings = .ok replicas →
        replicas.map (fun n => (n.toNat : Int)) = t.replicas.map Int32.toInt := by
  simp only [validate_eq_ok_iff_valid]
  refine ⟨⟨?_, ?_⟩, ?_⟩
  · rintro ⟨-, hvalid, -⟩
    exact hvalid
  · -- A valid number of replicas can be read as a word.
    intro hvalid
    obtain ⟨replicas, hreplicas⟩ := hvalid.exists_replicas
    exact ⟨replicas, hvalid, hreplicas⟩
  · rintro replicas ⟨-, hreplicas⟩
    exact hreplicas

namespace FullScale

/-- A template with as many replicas as the settings allow, and with a guard that counts. -/
def task : Task where
  key := " scale "
  desc := none
  guard := some ⟨.all, [⟨Selector.ofKind "Pod", .atMost, some 0⟩]⟩
  assert := none
  apply := some (.obj [("kind", .str "Pod")])
  target := none
  replicas := some 1000

end FullScale

open FullScale in
/-- The task is valid at the limit, and its number of replicas is returned. -/
theorem validate_accepts_fullScale :
    task.validate Settings.default = .ok (some 1000) ∧
      task.Valid Settings.default.maxReplicas ∧
      (some (1000 : UInt32)).map (fun n => (n.toNat : Int)) = task.replicas.map Int32.toInt := by
  have hvalid : task.validate Settings.default = .ok (some 1000) := by decide +kernel
  obtain ⟨haccepted, hreplicas⟩ := validate_accepts task Settings.default
  exact ⟨hvalid, haccepted.mp ⟨_, hvalid⟩, hreplicas _ hvalid⟩

/-- A negative number is refused even where every number without a sign is allowed. -/
example :
    validate { FullScale.task with replicas := some (-1) }
        { Settings.default with maxReplicas := 4294967295 } = .error (.negativeReplicas (-1)) := by
  decide +kernel

end Reconciler.Task
