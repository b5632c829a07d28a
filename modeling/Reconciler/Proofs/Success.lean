import Mathlib.Data.List.Perm.Basic

namespace Reconciler

/-!
# When steps that may fail succeed

Plans, tasks and runs are chains of steps that may fail.  The lemmas below say what the
success of a chain means for its steps, so that no proof about a plan has to go through
its failures.

* `bind_eq_ok`, `check_eq_ok`, `mapError_eq_ok`, `map_eq_ok`, `ok_unique`, `exists_error_iff`,
  `test_eq_ok` — one step after another;
* `mapM_eq_ok`, `exists_mapM_eq_ok`, `mapM_eq_error` — the same step for every item of a list;
* `forM_eq_ok`, `forM_eq_error` — the same check for every item;
* `Alike` — two chains that fail together, and whose results are related;
* `exists_left_of_forall₂`, `exists_right_of_forall₂` — the item beside another.
-/

variable {ε ε' α β : Type}

/-! ### Chains -/

/-- A chain succeeds when its first step does and the rest succeeds from there. -/
@[simp] theorem bind_eq_ok {x : Except ε α} {f : α → Except ε β} {b : β} :
    x >>= f = .ok b ↔ ∃ a, x = .ok a ∧ f a = .ok b := by
  cases x with
  | error e => simp [bind, Except.bind]
  | ok a => simp [bind, Except.bind]

/-- A chain that begins with a check succeeds when the check passes and the rest succeeds. -/
theorem check_eq_ok {x : Except ε Unit} {f : Unit → Except ε β} {b : β} :
    x >>= f = .ok b ↔ x = .ok () ∧ f () = .ok b :=
  bind_eq_ok.trans ⟨fun ⟨_, hx, hf⟩ => ⟨hx, hf⟩, fun ⟨hx, hf⟩ => ⟨(), hx, hf⟩⟩

@[simp] theorem pure_eq_ok {a b : α} : (pure a : Except ε α) = .ok b ↔ a = b := by
  simp [pure, Except.pure]

@[simp] theorem throw_ne_ok {e : ε} {a : α} : (throw e : Except ε α) ≠ .ok a := by
  simp [throw, throwThe, MonadExceptOf.throw]

/-- A step has one result. -/
theorem ok_unique {x : Except ε α} {a b : α} (ha : x = .ok a) (hb : x = .ok b) : a = b :=
  Except.ok.inj (ha.symm.trans hb)

/-- A step fails when it has no result. -/
theorem exists_error_iff {x : Except ε α} : (∃ e, x = .error e) ↔ ¬ ∃ a, x = .ok a := by
  cases x <;> simp

/-- Another wording of the failures changes no success. -/
@[simp] theorem mapError_eq_ok {x : Except ε α} {f : ε → ε'} {a : α} :
    x.mapError f = .ok a ↔ x = .ok a := by
  cases x <;> simp [Except.mapError]

/-- What succeeds after a change has succeeded before it. -/
@[simp] theorem map_eq_ok {x : Except ε α} {f : α → β} {b : β} :
    x.map f = .ok b ↔ ∃ a, x = .ok a ∧ f a = b := by
  cases x <;> simp [Except.map]

/-- A chain fails when its first step does, or when the rest fails from there. -/
theorem bind_eq_error {x : Except ε α} {f : α → Except ε β} {e : ε} :
    x >>= f = .error e ↔ x = .error e ∨ ∃ a, x = .ok a ∧ f a = .error e := by
  cases x with
  | error e => simp [bind, Except.bind]
  | ok a => simp [bind, Except.bind]

/-- A chain whose rest always succeeds fails when its first step does. -/
theorem bind_eq_error_of_ok {x : Except ε α} {f : α → Except ε β} {e : ε}
    (hf : ∀ a, ∃ b, f a = .ok b) : x >>= f = .error e ↔ x = .error e := by
  rw [bind_eq_error, or_iff_left]
  rintro ⟨a, -, ha⟩
  obtain ⟨b, hb⟩ := hf a
  rw [hb] at ha
  cases ha

/-- A test of the result of a step has an answer when the step succeeds. -/
theorem test_eq_ok {x : Except ε α} {test : α → Bool} {P : Prop} {b : Bool}
    (h : ∀ a, x = .ok a → (test a = true ↔ P)) :
    (do return test (← x)) = Except.ok b ↔ (∃ a, x = .ok a) ∧ (b = true ↔ P) := by
  simp only [bind_eq_ok, pure_eq_ok]
  constructor
  · rintro ⟨a, ha, rfl⟩
    exact ⟨⟨a, ha⟩, h a ha⟩
  · rintro ⟨⟨a, ha⟩, hb⟩
    exact ⟨a, ha, Bool.eq_iff_iff.mpr ((h a ha).trans hb.symm)⟩

/-- An error in other words was an error before. -/
theorem mapError_eq_error {x : Except ε α} {f : ε → ε'} {e : ε'} :
    x.mapError f = .error e ↔ ∃ e', x = .error e' ∧ f e' = e := by
  cases x <;> simp [Except.mapError]

/-! ### Lists -/

/-- A step succeeds for a whole list when it does item by item. -/
theorem mapM_eq_ok {f : α → Except ε β} {xs : List α} {ys : List β} :
    xs.mapM f = .ok ys ↔ List.Forall₂ (fun x y => f x = .ok y) xs ys := by
  induction xs generalizing ys with
  | nil => rw [List.mapM_nil, pure_eq_ok, List.forall₂_nil_left_iff, eq_comm]
  | cons x xs ih =>
    rw [List.mapM_cons]
    simp only [bind_eq_ok, pure_eq_ok, ih, List.forall₂_cons_left_iff]
    constructor
    · rintro ⟨y, hy, zs, hzs, rfl⟩
      exact ⟨y, zs, hy, hzs, rfl⟩
    · rintro ⟨y, zs, hy, hzs, rfl⟩
      exact ⟨y, hy, zs, hzs, rfl⟩

/-- There is a result for a whole list when there is one for each item. -/
theorem exists_mapM_eq_ok {f : α → Except ε β} {xs : List α} :
    (∃ ys, xs.mapM f = .ok ys) ↔ ∀ x ∈ xs, ∃ y, f x = .ok y := by
  simp only [mapM_eq_ok]
  induction xs with
  | nil => simp
  | cons x xs ih =>
    rw [List.forall_mem_cons, ← ih]
    constructor
    · rintro ⟨ys, h⟩
      obtain ⟨y, zs, hy, hzs, rfl⟩ := List.forall₂_cons_left_iff.mp h
      exact ⟨⟨y, hy⟩, zs, hzs⟩
    · rintro ⟨⟨y, hy⟩, zs, hzs⟩
      exact ⟨y :: zs, List.Forall₂.cons hy hzs⟩

/-- A step fails for a whole list at the first item where it does. -/
theorem mapM_eq_error {f : α → Except ε β} {xs : List α} {e : ε} :
    xs.mapM f = .error e ↔
      ∃ before x after, xs = before ++ x :: after ∧ (∀ x' ∈ before, ∃ y, f x' = .ok y) ∧
        f x = .error e := by
  induction xs with
  | nil => simp [pure, Except.pure]
  | cons x xs ih =>
    simp only [List.mapM_cons, bind_eq_error, ih]
    constructor
    · -- The first one fails, or it succeeds and a later one is the first to fail.
      rintro (hx | ⟨y, hy, ⟨before, x', after, rfl, hbefore, hx'⟩ | ⟨ys, -, hys⟩⟩)
      · exact ⟨[], x, xs, rfl, List.forall_mem_nil _, hx⟩
      · exact ⟨x :: before, x', after, rfl, List.forall_mem_cons.mpr ⟨⟨y, hy⟩, hbefore⟩, hx'⟩
      · cases hys
    · rintro ⟨before, x', after, hxs, hbefore, hx'⟩
      cases before with
      | nil =>
        obtain ⟨rfl, rfl⟩ := List.cons.inj hxs
        exact .inl hx'
      | cons x'' before =>
        obtain ⟨rfl, rfl⟩ := List.cons.inj hxs
        obtain ⟨⟨y, hy⟩, hbefore⟩ := List.forall_mem_cons.mp hbefore
        exact .inr ⟨y, hy, .inl ⟨before, x', after, rfl, hbefore, hx'⟩⟩

/-- A check passes for a whole list when it does item by item. -/
theorem forM_eq_ok {f : α → Except ε Unit} {xs : List α} :
    xs.forM f = .ok () ↔ ∀ x ∈ xs, f x = .ok () := by
  induction xs with
  | nil => simp [List.forM, pure, Except.pure]
  | cons x xs ih =>
    have hcons : (x :: xs).forM f = f x >>= fun _ => xs.forM f := rfl
    rw [hcons, bind_eq_ok, List.forall_mem_cons, ← ih]
    constructor
    · rintro ⟨⟨⟩, hx, hxs⟩
      exact ⟨hx, hxs⟩
    · rintro ⟨hx, hxs⟩
      exact ⟨(), hx, hxs⟩

/-- A check fails for a whole list at the first item where it does. -/
theorem forM_eq_error {f : α → Except ε Unit} {xs : List α} {e : ε} :
    xs.forM f = .error e ↔
      ∃ before x after, xs = before ++ x :: after ∧ (∀ x' ∈ before, f x' = .ok ()) ∧
        f x = .error e := by
  induction xs with
  | nil => simp [List.forM, pure, Except.pure]
  | cons x xs ih =>
    have hcons : (x :: xs).forM f = f x >>= fun _ => xs.forM f := rfl
    rw [hcons, bind_eq_error, ih]
    constructor
    · -- The first one fails, or it succeeds and a later one is the first to fail.
      rintro (hx | ⟨⟨⟩, hx, before, x', after, rfl, hbefore, hx'⟩)
      · exact ⟨[], x, xs, rfl, List.forall_mem_nil _, hx⟩
      · exact ⟨x :: before, x', after, rfl, List.forall_mem_cons.mpr ⟨hx, hbefore⟩, hx'⟩
    · rintro ⟨before, x', after, hxs, hbefore, hx'⟩
      cases before with
      | nil =>
        obtain ⟨rfl, rfl⟩ := List.cons.inj hxs
        exact .inl hx'
      | cons x'' before =>
        obtain ⟨rfl, rfl⟩ := List.cons.inj hxs
        obtain ⟨hx, hbefore⟩ := List.forall_mem_cons.mp hbefore
        exact .inr ⟨(), hx, before, x', after, rfl, hbefore, hx'⟩

/-- A check of a value that may be missing passes when it does for the value. -/
theorem option_forM_eq_ok {f : α → Except ε Unit} {o : Option α} :
    o.forM f = .ok () ↔ ∀ x, o = some x → f x = .ok () := by
  cases o with
  | none => simp [Option.forM, pure, Except.pure]
  | some x => simp [Option.forM]

/-! ### Chains that go alike -/

/-- Two steps either both fail, each for a reason of its own, or both succeed with related
    results. -/
inductive Alike (R : α → α → Prop) : Except ε α → Except ε α → Prop
  | failed (e e' : ε) : Alike R (.error e) (.error e')
  | succeeded {a b : α} (h : R a b) : Alike R (.ok a) (.ok b)

section Alike

variable {R : α → α → Prop} {S : β → β → Prop} {x y : Except ε α}

/-- Related values succeed alike. -/
theorem alike_pure {a b : α} (h : R a b) : Alike R (pure a : Except ε α) (pure b) :=
  .succeeded h

/-- Chains are alike when their beginnings are and related values go on alike. -/
theorem Alike.bind {f g : α → Except ε β} (h : Alike R x y)
    (hrest : ∀ a b, R a b → Alike S (f a) (g b)) : Alike S (x >>= f) (y >>= g) := by
  cases h with
  | failed e e' => exact .failed e e'
  | succeeded h => exact hrest _ _ h

/-- After one and the same step it is the rest that has to go alike. -/
theorem alike_bind (x : Except ε α) {f g : α → Except ε β}
    (hrest : ∀ a, x = .ok a → Alike S (f a) (g a)) : Alike S (x >>= f) (x >>= g) := by
  cases hx : x with
  | error e => exact .failed e e
  | ok a => exact hrest a hx

/-- Related changes keep computations alike. -/
theorem Alike.map {f : α → β} (h : Alike R x y) (hf : ∀ a b, R a b → S (f a) (f b)) :
    Alike S (x.map f) (y.map f) := by
  cases h with
  | failed e e' => exact .failed e e'
  | succeeded h => exact .succeeded (hf _ _ h)

/-- Errors in other words keep computations alike. -/
theorem Alike.mapError (h : Alike R x y) (f : ε → ε') :
    Alike R (x.mapError f) (y.mapError f) := by
  cases h with
  | failed e e' => exact .failed (f e) (f e')
  | succeeded h => exact .succeeded h

/-- Whether a step succeeds for all items of a list is no matter of their order.  The first
    failure is one. -/
theorem alike_mapM (f : α → Except ε β) {xs ys : List α} (h : xs.Perm ys) :
    Alike List.Perm (xs.mapM f) (ys.mapM f) := by
  cases hx : xs.mapM f with
  | ok us =>
    obtain ⟨vs, hvs, hperm⟩ := List.perm_comp_forall₂ h.symm (mapM_eq_ok.mp hx)
    rw [mapM_eq_ok.mpr hvs]
    exact .succeeded hperm.symm
  | error e =>
    cases hy : ys.mapM f with
    | error e' => exact .failed e e'
    | ok vs =>
      -- Every item succeeds in one order, and so it does in the other.
      have hall := exists_mapM_eq_ok.mp ⟨vs, hy⟩
      obtain ⟨us, hus⟩ := exists_mapM_eq_ok.mpr fun x hmem => hall x (h.mem_iff.mp hmem)
      rw [hx] at hus
      cases hus

end Alike

/-! ### Items beside each other -/

section Forall₂

variable {R : α → β → Prop} {xs : List α} {ys : List β}

/-- Each item of the second list stands beside one of the first. -/
theorem exists_left_of_forall₂ (h : List.Forall₂ R xs ys) {y : β} (hy : y ∈ ys) :
    ∃ x ∈ xs, R x y := by
  induction h with
  | nil => simp at hy
  | cons hxy _ ih =>
    rcases List.mem_cons.mp hy with rfl | hy
    · exact ⟨_, List.mem_cons_self, hxy⟩
    · obtain ⟨x, hx, hR⟩ := ih hy
      exact ⟨x, List.mem_cons_of_mem _ hx, hR⟩

/-- Each item of the first list stands beside one of the second. -/
theorem exists_right_of_forall₂ (h : List.Forall₂ R xs ys) {x : α} (hx : x ∈ xs) :
    ∃ y ∈ ys, R x y := by
  have hflip : List.Forall₂ (flip R) ys xs := h.flip
  exact exists_left_of_forall₂ hflip hx

end Forall₂

end Reconciler
