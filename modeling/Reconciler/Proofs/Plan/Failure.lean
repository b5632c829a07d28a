import Reconciler.Proofs.Plan.Template
import Reconciler.Proofs.Plan.Update

namespace Reconciler

/-!
# Why a plan cannot be made

* `TemplateFault`, `parseTemplate_eq_error` — the faults of a template;
* `planCreate_eq_error`, `planDelete_eq_error`, `planTemplate_eq_error` — the failures of the plans
  for templates; the plan that a template asks for is never one of no replicas;
* `MergeFault`, `updateOne_eq_error` — the faults of one merge;
* `planUpdate_eq_error` — the failures of an update: those of its target, and else the fault of
  the first selected resource that has one.
-/

variable {settings : Settings} {provenance : Provenance} {watch : Owner} {template : Document}
  {observed : List Resource} {e : PlanError}

/-! ### Templates -/

/-- A template is empty, is no resource, or is one without a type. -/
inductive TemplateFault (template : Document) : PlanError → Prop
  | empty (h : isEmptyTemplate template = true) : TemplateFault template .emptyTemplate
  | unreadable {error : ResourceError} (hempty : isEmptyTemplate template = false)
      (h : Resource.decode template = .error error) : TemplateFault template (.template error)
  | missingApiVersion {r : Resource} (hempty : isEmptyTemplate template = false)
      (h : Resource.decode template = .ok r) (hversion : r.apiVersion = "") :
      TemplateFault template .missingApiVersion
  | missingKind {r : Resource} (hempty : isEmptyTemplate template = false)
      (h : Resource.decode template = .ok r) (hversion : r.apiVersion ≠ "") (hkind : r.kind = "") :
      TemplateFault template .missingKind

/-- A template is refused with an error iff this is its fault. -/
theorem parseTemplate_eq_error : parseTemplate template = .error e ↔ TemplateFault template e := by
  constructor
  · -- The tests of the program, one after the other, and the fault that each of them finds.
    intro h
    unfold parseTemplate at h
    split at h
    · next hempty =>
      obtain rfl := Except.error.inj h
      exact .empty hempty
    · next hempty =>
      have hempty : isEmptyTemplate template = false := Bool.eq_false_iff.mpr hempty
      split at h
      · next error hr =>
        obtain rfl := Except.error.inj h
        exact .unreadable hempty hr
      · next r hr =>
        simp only [String.isEmpty_iff] at h
        split at h
        · next hversion =>
          obtain rfl := Except.error.inj h
          exact .missingApiVersion hempty hr hversion
        · next hversion =>
          split at h
          · next hkind =>
            obtain rfl := Except.error.inj h
            exact .missingKind hempty hr hversion hkind
          · cases h
  · intro h
    cases h with
    | empty h => rw [parseTemplate, if_pos h]
    | unreadable hempty h => simp [parseTemplate, hempty, h]
    | missingApiVersion hempty h hversion => simp [parseTemplate, hempty, h, hversion]
    | missingKind hempty h hversion hkind => simp [parseTemplate, hempty, h, hversion, hkind]

/-- A template that can be created has a base name, too. -/
inductive CreateFault (template : Document) : PlanError → Prop
  | template {error : PlanError} (h : TemplateFault template error) : CreateFault template error
  | missingName {r : Resource} (h : parseTemplate template = .ok r) (hname : r.baseName? = none) :
      CreateFault template (.missingName r.kind)

/-- A creation fails for want of replicas, or else for its template. -/
theorem planCreate_eq_error {replicas : UInt32} :
    planCreate settings provenance template replicas = .error e ↔
      replicas = 0 ∧ e = .zeroReplicas ∨ replicas ≠ 0 ∧ CreateFault template e := by
  rw [planCreate]
  by_cases hzero : replicas = 0
  · simp only [hzero, if_true, true_and, ne_eq, not_true, false_and, or_false]
    exact ⟨fun h => (Except.error.inj h).symm, by rintro rfl; rfl⟩
  · rw [if_neg hzero]
    simp only [hzero, false_and, false_or, ne_eq, not_false_eq_true, true_and]
    -- The template is read first, and only then its name is looked for.
    rw [bind_eq_error]
    constructor
    · rintro (h | ⟨r, hr, h⟩)
      · exact .template (parseTemplate_eq_error.mp h)
      · split at h
        · next hname =>
          obtain rfl := Except.error.inj h
          exact .missingName hr hname
        · cases h
    · intro h
      cases h with
      | template h => exact .inl (parseTemplate_eq_error.mpr h)
      | missingName hr hname =>
        refine .inr ⟨_, hr, ?_⟩
        rw [hname]
        rfl

/-- A deletion fails for its template alone. -/
theorem planDelete_eq_error :
    planDelete settings watch template observed = .error e ↔ TemplateFault template e := by
  rw [planDelete, bind_eq_error_of_ok, parseTemplate_eq_error]
  exact fun _ => ⟨_, rfl⟩

/-- To ask for no replicas is to ask for a deletion, so a template never fails for that. -/
theorem planTemplate_eq_error {replicas : Option UInt32} :
    planTemplate settings provenance template replicas observed = .error e ↔
      isDeleteIntent template replicas = true ∧ TemplateFault template e ∨
        isDeleteIntent template replicas = false ∧ CreateFault template e := by
  rw [planTemplate]
  cases hintent : isDeleteIntent template replicas with
  | true =>
    simp only [if_true, true_and, Bool.true_eq_false, false_and, or_false]
    have hdelete : planDelete settings provenance.watch template observed = .error e ↔
        TemplateFault template e := planDelete_eq_error
    rw [← hdelete]
    cases planDelete settings provenance.watch template observed <;> simp [Except.map]
  | false =>
    -- Without a deletion there is a replica at least, so that fault of a creation is not met.
    have hsome : replicas.getD 1 ≠ 0 := by
      intro hzero
      cases replicas with
      | none => simp at hzero
      | some n =>
        obtain rfl : n = 0 := hzero
        rw [isDeleteIntent_iff.mpr (.inl rfl)] at hintent
        cases hintent
    have hcreate : planCreate settings provenance template (replicas.getD 1) = .error e ↔
        CreateFault template e := by
      rw [planCreate_eq_error]
      simp only [hsome, false_and, false_or, ne_eq, not_false_eq_true, true_and]
    simp only [Bool.false_eq_true, if_false, false_and, true_and, false_or]
    rw [← hcreate]
    cases planCreate settings provenance template (replicas.getD 1) <;> simp [Except.map]

/-! ### Updates -/

/-- The merge itself fails, its document is no resource, or it is one of another address. -/
inductive MergeFault (merger : Merger) (patch : Document) (s : Resource) : PlanError → Prop
  | merge {error : MergeError} (h : merger s.encode patch patch = .error error) :
      MergeFault merger patch s (.merge s.id error)
  | unreadable {d : Document} {error : ResourceError} (hd : merger s.encode patch patch = .ok d)
      (h : Resource.decode d = .error error) :
      MergeFault merger patch s (.merge s.id (.resource error))
  | identity {u : Resource} (h : MergesTo merger patch s u) (hid : u.id ≠ s.id) :
      MergeFault merger patch s (.identityChanged s.id u.id)

variable {merger : Merger} {patch : Document} {target : Selector}

/-- An update of one resource fails with an error iff this is the fault of the merge. -/
theorem updateOne_eq_error {s : Resource} :
    updateOne merger watch patch s = .error e ↔ MergeFault merger patch s e := by
  simp only [updateOne, bind_eq_error, mapError_eq_error, mapError_eq_ok]
  constructor
  · -- The merge fails, or its document does not read, or the address is another one.
    rintro (⟨error, h, rfl⟩ | ⟨d, hd, ⟨error, h, rfl⟩ | ⟨u, hu, h⟩⟩)
    · exact .merge h
    · exact .unreadable hd h
    · split at h
      · cases h
      · next hid =>
        obtain rfl := Except.error.inj h
        exact .identity ⟨d, hd, hu⟩ hid
  · intro h
    cases h with
    | merge h => exact .inl ⟨_, h, rfl⟩
    | unreadable hd h => exact .inr ⟨_, hd, .inl ⟨_, h, rfl⟩⟩
    | identity h hid =>
      obtain ⟨d, hd, hu⟩ := h
      refine .inr ⟨d, hd, .inr ⟨_, hu, ?_⟩⟩
      rw [if_neg hid]
      rfl

/-- An update fails for its target, or else for the first selected resource whose merge has a
    fault. -/
theorem planUpdate_eq_error :
    planUpdate settings merger watch patch target observed = .error e ↔
      (∃ error, target.compile = .error error ∧ e = .select error) ∨
        ∃ selector before s after, target.compile = .ok selector ∧
          observed.filter selector.accepts = before ++ s :: after ∧
          (∀ s' ∈ before, ∃ u, updateOne merger watch patch s' = .ok u) ∧
          MergeFault merger patch s e := by
  rw [planUpdate_eq, bind_eq_error]
  simp only [mapError_eq_error, mapError_eq_ok, bind_eq_error, mapM_eq_error, updateOne_eq_error]
  constructor
  · rintro (⟨error, h, rfl⟩ | ⟨selector, hs, ⟨before, s, after, hsplit, hbefore, h⟩ | ⟨_, -, h⟩⟩)
    · exact .inl ⟨error, h, rfl⟩
    · exact .inr ⟨selector, before, s, after, hs, hsplit, hbefore, h⟩
    · cases h
  · rintro (⟨error, h, rfl⟩ | ⟨selector, before, s, after, hs, hsplit, hbefore, h⟩)
    · exact .inl ⟨error, h, rfl⟩
    · exact .inr ⟨selector, hs, .inl ⟨before, s, after, hsplit, hbefore, h⟩⟩

end Reconciler
