import Reconciler.Proofs.Selector.Order
import Reconciler.Proofs.Selector.Scan

namespace Reconciler

/-!
# The verdict of an assertion

All conditions of an assertion are validated before any of them is evaluated, but their field
paths are read only when their turn comes.  So a condition that is not valid is always noticed,
while one whose field paths do not read goes unnoticed behind a condition that decides.

* `Condition.Answers`, `Assertion.Answers` — there is an answer, and this is it;
* `Assertion.Ending`, `Assertion.settle_of_ending` — the conditions one after the other;
* `Assertion.Verdict`, `Assertion.evaluate_eq_iff` — the whole evaluation, case by case;
* `Assertion.Failure`, `Assertion.failure_of_evaluate` — the failures of an assertion whose
  conditions are valid;
* `Assertion.Joined` — what the junction makes of the answers of all conditions;
* `Assertion.evaluate_verdict` — the verdict, and that it is the one of the junction whenever
  all field paths read.
-/

variable {rs rs' : List Resource} {b : Bool}

namespace Condition

variable {c : Condition}

/-- The condition has an answer over the resources, and it is `b`. -/
def Answers (c : Condition) (rs : List Resource) (b : Bool) : Prop :=
  ∃ o, c.evaluate rs = .ok o ∧ o.success = b

/-- A condition has one answer. -/
theorem Answers.unique {b' : Bool} (h : c.Answers rs b) (h' : c.Answers rs b') : b = b' := by
  obtain ⟨o, ho, rfl⟩ := h
  obtain ⟨o', ho', rfl⟩ := h'
  rw [ok_unique ho ho']

/-- A condition is answered when nothing stands against it. -/
theorem exists_answers (hvalid : c.validate = .ok ()) (hrs : rs ≠ [])
    (hreadable : ¬ ∃ path fault, c.selector.Unreadable path fault) : ∃ b, c.Answers rs b := by
  cases he : c.evaluate rs with
  | ok o => exact ⟨o.success, o, he, rfl⟩
  | error e =>
    rcases exists_evaluate_eq_error.mp ⟨e, he⟩ with h | h | h
    · exact absurd hvalid h
    · exact absurd h hrs
    · exact absurd h hreadable

end Condition

namespace Assertion

variable {a : Assertion} {cs : List Condition} {decisive : Bool}
  {x : Except SelectError AssertionOutcome}

/-! ### One condition after the other -/

/-- How conditions end that are evaluated one after the other: at the first one that fails or has
    the decisive answer, or, when there is none, behind the last one. -/
inductive Ending (decisive : Bool) (rs : List Resource) (cs : List Condition) :
    Except SelectError AssertionOutcome → Prop
  | failed {before after : List Condition} {c : Condition} {e : SelectError}
      (hcs : cs = before ++ c :: after) (hbefore : ∀ c' ∈ before, c'.Answers rs (!decisive))
      (h : c.evaluate rs = .error e) : Ending decisive rs cs (.error e)
  | decided {before after : List Condition} {c : Condition}
      (hcs : cs = before ++ c :: after) (hbefore : ∀ c' ∈ before, c'.Answers rs (!decisive))
      (h : c.Answers rs decisive) : Ending decisive rs cs (.ok ⟨decisive, before.length + 1⟩)
  | undecided (hall : ∀ c ∈ cs, c.Answers rs (!decisive)) :
      Ending decisive rs cs (.ok ⟨!decisive, cs.length⟩)

/-- Conditions without the decisive answer are only counted. -/
theorem settle_append {before : List Condition} (hbefore : ∀ c ∈ before, c.Answers rs (!decisive))
    (n : Nat) (rest : List Condition) :
    settle decisive rs n (before ++ rest) = settle decisive rs (n + before.length) rest := by
  -- On the conditions that decide nothing; each of them is counted.
  induction before generalizing n with
  | nil => rfl
  | cons c before ih =>
    obtain ⟨⟨o, ho, hgoesOn⟩, hbefore⟩ := List.forall_mem_cons.mp hbefore
    have hlength : n + (c :: before).length = n + 1 + before.length := by
      rw [List.length_cons]
      omega
    rw [List.cons_append, settle, ho, hlength, ← ih hbefore]
    exact if_neg (Bool.eq_not.mp hgoesOn)

/-- The scan ends as the relation says. -/
theorem settle_of_ending (h : Ending decisive rs cs x) : settle decisive rs 0 cs = x := by
  cases h with
  | failed hcs hbefore h =>
    rw [hcs, settle_append hbefore, settle, h]
    rfl
  | decided hcs hbefore h =>
    obtain ⟨o, ho, hdecides⟩ := h
    rw [hcs, settle_append hbefore, settle, ho, Nat.zero_add]
    exact if_pos hdecides
  | undecided hall =>
    have happend := settle_append hall 0 []
    rw [List.append_nil, Nat.zero_add] at happend
    rw [happend, settle]

/-- Every scan of conditions has an end. -/
theorem exists_ending (decisive : Bool) (rs : List Resource) (cs : List Condition) :
    ∃ x, Ending decisive rs cs x := by
  classical
  -- The first condition that does not answer with the other value, if there is one.
  cases hfirst : cs.find? fun c => ¬ c.Answers rs (!decisive) with
  | none =>
    have hall : ∀ c ∈ cs, c.Answers rs (!decisive) := by simpa using hfirst
    exact ⟨_, .undecided hall⟩
  | some c =>
    obtain ⟨hc, before, after, hcs, hbefore⟩ := List.find?_eq_some_iff_append.mp hfirst
    have hends : ¬ c.Answers rs (!decisive) := by simpa using hc
    have hgoOn : ∀ c' ∈ before, c'.Answers rs (!decisive) := by simpa using hbefore
    cases he : c.evaluate rs with
    | error e => exact ⟨_, .failed hcs hgoOn he⟩
    | ok o =>
      have hdecides : o.success = decisive := by
        by_contra hother
        exact hends ⟨o, he, Bool.eq_not.mpr hother⟩
      exact ⟨_, .decided hcs hgoOn ⟨o, he, hdecides⟩⟩

/-! ### The whole evaluation -/

/-- How the evaluation of an assertion ends.  Without conditions it succeeds, even without
    resources.  Otherwise the first condition that is not valid is the failure, wherever it
    stands; without such a condition it takes resources, and over them the conditions are
    evaluated one after the other. -/
inductive Verdict (a : Assertion) (rs : List Resource) : Except SelectError AssertionOutcome → Prop
  | vacuous (hconditions : a.conditions = []) : Verdict a rs (.ok ⟨true, 0⟩)
  | invalid {before after : List Condition} {c : Condition} {e : SelectError}
      (hconditions : a.conditions = before ++ c :: after)
      (hbefore : ∀ c' ∈ before, c'.validate = .ok ()) (h : c.validate = .error e) :
      Verdict a rs (.error e)
  | noCandidates (hconditions : a.conditions ≠ [])
      (hvalid : ∀ c ∈ a.conditions, c.validate = .ok ()) (hrs : rs = []) :
      Verdict a rs (.error (.noCandidates a.conditions.length))
  | settled {x : Except SelectError AssertionOutcome} (hconditions : a.conditions ≠ [])
      (hvalid : ∀ c ∈ a.conditions, c.validate = .ok ()) (hrs : rs ≠ [])
      (h : Ending a.junction.decisive rs a.conditions x) : Verdict a rs x

theorem evaluate_of_verdict (h : a.Verdict rs x) : a.evaluate rs = x := by
  unfold evaluate
  cases h with
  | vacuous hconditions =>
    rw [hconditions]
    rfl
  | invalid hconditions hbefore h =>
    have hvalidate := forM_eq_error.mpr ⟨_, _, _, hconditions, hbefore, h⟩
    rw [if_neg (by simp [hconditions]), validate, hvalidate]
    rfl
  | noCandidates hconditions hvalid hrs =>
    rw [if_neg (by simpa using hconditions), validate, forM_eq_ok.mpr hvalid, hrs]
    rfl
  | settled hconditions hvalid hrs h =>
    rw [if_neg (by simpa using hconditions), validate, forM_eq_ok.mpr hvalid,
      ← settle_of_ending h]
    have hempty : rs.isEmpty = false := by simpa using hrs
    rw [hempty]
    rfl

/-- Every assertion has a verdict. -/
theorem exists_verdict (a : Assertion) (rs : List Resource) : ∃ x, a.Verdict rs x := by
  by_cases hconditions : a.conditions = []
  · exact ⟨_, .vacuous hconditions⟩
  · cases hvalidate : a.validate with
    | error e =>
      obtain ⟨before, c, after, hsplit, hbefore, hc⟩ := forM_eq_error.mp hvalidate
      exact ⟨_, .invalid hsplit hbefore hc⟩
    | ok _ =>
      -- Valid conditions are settled if there is a resource to settle them on.
      have hvalid := forM_eq_ok.mp hvalidate
      by_cases hrs : rs = []
      · exact ⟨_, .noCandidates hconditions hvalid hrs⟩
      · obtain ⟨x, hx⟩ := exists_ending a.junction.decisive rs a.conditions
        exact ⟨x, .settled hconditions hvalid hrs hx⟩

/-- The evaluation gives the verdict, and no other. -/
theorem evaluate_eq_iff : a.evaluate rs = x ↔ a.Verdict rs x := by
  constructor
  · rintro rfl
    obtain ⟨x, hx⟩ := exists_verdict a rs
    rwa [evaluate_of_verdict hx]
  · exact evaluate_of_verdict

/-! ### Failures -/

/-- The failures of an assertion with valid conditions: there are no resources to ask about, or
    a field path of one of its conditions does not read. -/
inductive Failure (a : Assertion) (rs : List Resource) : SelectError → Prop
  | noCandidates (hconditions : a.conditions ≠ []) (hresources : rs = []) :
      Failure a rs (.noCandidates a.conditions.length)
  | field {c : Condition} {path : String} {fault : PathError} (hc : c ∈ a.conditions)
      (h : c.selector.Unreadable path fault) : Failure a rs (.field path fault)

/-- An assertion of valid conditions fails only for want of candidates or for a path that does not
    read. -/
theorem failure_of_evaluate {e : SelectError} (hvalid : ∀ c ∈ a.conditions, c.Valid)
    (h : a.evaluate rs = .error e) : a.Failure rs e := by
  cases evaluate_eq_iff.mp h with
  | @invalid before after c _ hsplit _ hc =>
    rw [Condition.validate_eq_ok.mpr (hvalid c (by simp [hsplit]))] at hc
    cases hc
  | noCandidates hconditions _ hrs => exact .noCandidates hconditions hrs
  | settled _ _ hrs hending =>
    cases hending with
    | @failed before after c _ hsplit _ hc =>
      have hmem : c ∈ a.conditions := by simp [hsplit]
      have hcvalid := hvalid c hmem
      -- The condition is valid and there are resources, so it fails by its selector.
      rcases Condition.evaluate_eq_error.mp hc with hc | ⟨-, ⟨hnil, -⟩ | ⟨-, hcompile⟩⟩
      · rw [Condition.validate_eq_ok.mpr hcvalid] at hc
        cases hc
      · exact absurd hnil hrs
      · obtain ⟨path, fault, hbad, rfl⟩ := Selector.unreadable_of_compile hcvalid.terms hcompile
        exact .field hmem hbad

/-! ### The answers of all conditions -/

/-- The field paths of all conditions read. -/
def Readable (a : Assertion) : Prop :=
  ∀ c ∈ a.conditions, ¬ ∃ path fault, c.selector.Unreadable path fault

/-- The assertion has an answer over the resources, and it is `b`. -/
def Answers (a : Assertion) (rs : List Resource) (b : Bool) : Prop :=
  ∃ o, a.evaluate rs = .ok o ∧ o.success = b

/-- Some condition succeeds, or all of them do, as the junction has it. -/
def Joined (a : Assertion) (rs : List Resource) : Prop :=
  match a.junction with
  | .any => ∃ c ∈ a.conditions, c.Answers rs true
  | .all => ∀ c ∈ a.conditions, c.Answers rs true

/-- Conditions that all have an answer end with the answer of the junction. -/
theorem exists_ending_joined (hanswers : ∀ c ∈ a.conditions, ∃ b, c.Answers rs b) :
    ∃ o, Ending a.junction.decisive rs a.conditions (.ok o) ∧ (o.success = true ↔ a.Joined rs) := by
  unfold Joined
  obtain ⟨x, hx⟩ := exists_ending a.junction.decisive rs a.conditions
  cases hx with
  | @failed before after c e hcs _ h =>
    obtain ⟨b, o, ho, -⟩ := hanswers c (by simp [hcs])
    rw [h] at ho
    cases ho
  | @decided before after c hcs hbefore h =>
    refine ⟨_, .decided hcs hbefore h, ?_⟩
    -- One condition decides: it holds where any is enough, or it fails where all are needed.
    have hmem : c ∈ a.conditions := by simp [hcs]
    cases hj : a.junction with
    | any =>
      rw [hj] at h
      exact iff_of_true rfl ⟨c, hmem, h⟩
    | all =>
      rw [hj] at h
      refine iff_of_false nofun fun hall => ?_
      cases h.unique (hall c hmem)
  | undecided hall =>
    -- No condition decides, so none of them holds or all of them do.
    refine ⟨_, .undecided hall, ?_⟩
    cases hj : a.junction with
    | any =>
      rw [hj] at hall
      refine iff_of_false nofun fun ⟨c, hmem, h⟩ => ?_
      cases h.unique (hall c hmem)
    | all =>
      rw [hj] at hall
      exact iff_of_true rfl hall

/-- An assertion that can be read is evaluated, and it passes iff its conditions together hold. -/
theorem exists_evaluate_joined (hreadable : a.Readable) (hconditions : a.conditions ≠ [])
    (hvalid : ∀ c ∈ a.conditions, c.validate = .ok ()) (hrs : rs ≠ []) :
    ∃ o, a.evaluate rs = .ok o ∧ (o.success = true ↔ a.Joined rs) := by
  obtain ⟨o, ho, hjoined⟩ := exists_ending_joined fun c hc =>
    Condition.exists_answers (hvalid c hc) hrs (hreadable c hc)
  exact ⟨o, evaluate_of_verdict (.settled hconditions hvalid hrs ho), hjoined⟩

/-! ### The order of the conditions -/

/-- Conditions hold together in any order. -/
theorem joined_perm (hcs : a.conditions.Perm cs) :
    (Assertion.mk a.junction cs).Joined rs ↔ a.Joined rs := by
  unfold Joined
  cases a.junction <;> simp only [hcs.mem_iff]

theorem Readable.perm (hreadable : a.Readable) (hcs : a.conditions.Perm cs) :
    (Assertion.mk a.junction cs).Readable :=
  fun c hc => hreadable c (hcs.mem_iff.mpr hc)

/-- The answer is that of the junction, whose order is of no matter. -/
theorem Readable.answers_of_perm (hreadable : a.Readable) (hcs : a.conditions.Perm cs)
    (h : a.Answers rs b) : (Assertion.mk a.junction cs).Answers rs b := by
  obtain ⟨o, ho, rfl⟩ := h
  cases evaluate_eq_iff.mp ho with
  | vacuous hconditions =>
    rw [hconditions] at hcs
    exact ⟨_, evaluate_of_verdict (.vacuous hcs.symm.eq_nil), rfl⟩
  | settled hconditions hvalid hrs _ =>
    have hconditions' : cs ≠ [] := fun hnil => hconditions (hnil ▸ hcs).eq_nil
    -- Both orders are evaluated, and what the conditions tell together has no order.
    obtain ⟨o₁, ho₁, hjoined⟩ := exists_evaluate_joined hreadable hconditions hvalid hrs
    obtain ⟨o₂, ho₂, hjoined'⟩ := exists_evaluate_joined (hreadable.perm hcs) hconditions'
      (fun c hc => hvalid c (hcs.mem_iff.mpr hc)) hrs
    obtain rfl := ok_unique ho ho₁
    refine ⟨o₂, ho₂, ?_⟩
    rw [Bool.eq_iff_iff, hjoined', joined_perm hcs, hjoined]

/-- Conditions and resources in another order are answered alike. -/
theorem answers_perm (hreadable : a.Readable) (hcs : a.conditions.Perm cs) (hrs : rs.Perm rs') :
    (Assertion.mk a.junction cs).Answers rs' b ↔ a.Answers rs b := by
  have hresources : (Assertion.mk a.junction cs).Answers rs' b ↔
      (Assertion.mk a.junction cs).Answers rs b := by
    rw [Answers, Answers, evaluate_perm _ hrs]
  rw [hresources]
  exact ⟨(hreadable.perm hcs).answers_of_perm hcs.symm, hreadable.answers_of_perm hcs⟩

/-- Every evaluation ends by its verdict.  When all field paths read, an assertion of valid
    conditions over resources succeeds when some condition does, or when all of them do, as its
    junction has it, and no order of the conditions or of the resources makes a difference. -/
theorem evaluate_verdict (a : Assertion) (rs : List Resource) :
    (∀ x, a.evaluate rs = x ↔ a.Verdict rs x) ∧
      (a.Readable →
        (a.conditions ≠ [] → (∀ c ∈ a.conditions, c.validate = .ok ()) → rs ≠ [] →
          ∃ o, a.evaluate rs = .ok o ∧ (o.success = true ↔ a.Joined rs)) ∧
        ∀ (cs : List Condition) (rs' : List Resource), a.conditions.Perm cs → rs.Perm rs' →
          ∀ b, (Assertion.mk a.junction cs).Answers rs' b ↔ a.Answers rs b) :=
  ⟨fun _ => evaluate_eq_iff, fun hreadable => ⟨exists_evaluate_joined hreadable,
    fun _ _ hcs hrs _ => answers_perm hreadable hcs hrs⟩⟩

end Assertion

namespace PodAndService

/-- Two resources of different kinds. -/
def resources : List Resource := [⟨"v1", "Pod", .empty, []⟩, ⟨"v1", "Service", .empty, []⟩]

/-- The condition that there is a resource of the kind. -/
def exist (kind : String) : Condition := .ofSelector (.ofKind kind)

/-- There is a job or a service. -/
def either : Assertion := ⟨.any, [exist "Job", exist "Service"]⟩

/-- A selector by kind alone has no path that could be unreadable. -/
theorem readable_exist (kind : String) :
    ¬ ∃ path fault, (exist kind).selector.Unreadable path fault := by
  have hparse : FieldPath.parse "kind" = .ok ⟨"kind", .key "kind", []⟩ := by decide +kernel
  rintro ⟨path, fault, t, ht, expected, hget, hfault⟩
  obtain rfl := List.mem_singleton.mp ht
  have hpath : path = "kind" := by
    by_contra hother
    rw [SelectorTerm.withField, Table.get?_insert, if_neg hother] at hget
    cases hget
  rw [hpath, hparse] at hfault
  cases hfault

theorem readable_either : either.Readable := by
  intro c hc
  simp only [either, List.mem_cons, List.not_mem_nil, or_false] at hc
  obtain rfl | rfl := hc
  · exact readable_exist "Job"
  · exact readable_exist "Service"

end PodAndService

open PodAndService in
/-- The second condition decides.  With conditions and resources in another order it is the first
    one, and the answer is the same. -/
theorem Assertion.evaluate_verdict_either :
    either.Verdict resources (.ok ⟨true, 2⟩) ∧
      either.Readable ∧ either.conditions ≠ [] ∧
      (∀ c ∈ either.conditions, c.validate = .ok ()) ∧ resources ≠ [] ∧ either.Joined resources ∧
      either.conditions.Perm [exist "Service", exist "Job"] ∧
      resources.Perm resources.reverse ∧
      (Assertion.mk .any [exist "Service", exist "Job"]).Answers resources.reverse true := by
  obtain ⟨hverdict, hreadable⟩ := Assertion.evaluate_verdict either resources
  obtain ⟨hjoined, hperm⟩ := hreadable readable_either
  have hevaluate : either.evaluate resources = .ok ⟨true, 2⟩ := by decide +kernel
  have hvalid : ∀ c ∈ either.conditions, c.validate = .ok () := by decide
  have hcs : either.conditions.Perm [exist "Service", exist "Job"] := List.Perm.swap _ _ _
  have hrs : resources.Perm resources.reverse := (List.reverse_perm resources).symm
  obtain ⟨o, ho, hsuccess⟩ := hjoined nofun hvalid nofun
  obtain rfl := ok_unique hevaluate ho
  exact ⟨(hverdict _).mp hevaluate, readable_either, nofun, hvalid, nofun, hsuccess.mp rfl, hcs,
    hrs, (hperm _ _ hcs hrs true).mpr ⟨_, hevaluate, rfl⟩⟩

end Reconciler
