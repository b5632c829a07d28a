import Reconciler.Proofs.Plan.Replicas
import Reconciler.Proofs.Settings
import Reconciler.Proofs.Task.Failure

namespace Reconciler

/-!
# How many resources a task creates

A task without a target makes resources desired only by creating them.  It creates as many as its
number of replicas says, and one if it does not say, and the settings limit this number.

* `Task.CreatesReplicas` — the tasks that create this many replicas;
* `Task.Executes.desired_of_target_none` — what a task without a target makes desired;
* `Task.failed_of_not_valid` — a task that is not valid contributes nothing;
* `Task.execute_limited` — the limit, under the settings of every environment.
-/

namespace Task

variable {t : Task} {ctx : TaskContext} {x : Execution} {limit : UInt32} {n : Nat}

/-- The task is valid and asks for this many replicas of its template, not for a deletion. -/
structure CreatesReplicas (t : Task) (limit : UInt32) (n : Nat) : Prop where
  valid : t.Valid limit
  count : (n : Int) = (t.replicas.map Int32.toInt).getD 1
  replicas : t.replicas ≠ some 0
  spec : ∀ template, t.apply = some template → template.member? "spec" ≠ some .null

/-- What is carried out as a creation is one. -/
theorem Proceeds.createsReplicas {replicas : Option UInt32} {template : Document}
    (h : t.Proceeds ctx replicas) (happly : t.apply = some template)
    (hintent : isDeleteIntent template replicas = false) :
    t.CreatesReplicas ctx.settings.maxReplicas (replicas.getD 1).toNat := by
  obtain ⟨hvalid, hreplicas⟩ := validate_eq_ok_iff_valid.mp h.1
  have hno := mt isDeleteIntent_iff.mpr (Bool.eq_false_iff.mp hintent)
  rw [not_or] at hno
  refine ⟨hvalid, ?_, fun hzero => hno.1 ?_, fun template' happly' => ?_⟩
  · rw [← hreplicas]
    cases replicas <;> rfl
  · -- Without a sign, zero is zero.
    rw [hzero] at hreplicas
    obtain ⟨k, rfl, hk⟩ := Option.map_eq_some_iff.mp hreplicas
    have hk0 : k.toNat = 0 := Int.ofNat_eq_zero.mp hk
    exact congrArg some (UInt32.toNat_inj.mp hk0)
  · rw [Option.some.inj (happly'.symm.trans happly)]
    exact hno.2

/-- As many replicas as a task creates are within a limit that allows for one. -/
theorem CreatesReplicas.le_limit (h : t.CreatesReplicas limit n) (hlimit : 1 ≤ limit.toNat) :
    n ≤ limit.toNat := by
  have hcount := h.count
  -- One replica if no number is asked for, and otherwise that number, which is valid.
  cases hreplicas : t.replicas with
  | none =>
    rw [hreplicas] at hcount
    have hn : (n : Int) = 1 := hcount
    omega
  | some k =>
    rw [hreplicas] at hcount
    have hn : (n : Int) = k.toInt := hcount
    have hk := (h.valid.replicas k hreplicas).2
    omega

/-- Without a target a task makes nothing desired, unless it creates replicas. -/
theorem Executes.desired_of_target_none (h : t.Executes ctx x) (htarget : t.target = none) :
    (x.delta.desired = [] ∧ ∀ report, x.result.outcome ≠ some (.create report)) ∨
      t.CreatesReplicas ctx.settings.maxReplicas x.delta.desired.length := by
  cases h with
  | failed => exact .inl ⟨rfl, nofun⟩
  | stopped => exact .inl ⟨rfl, nofun⟩
  | @asserted _ _ outcome =>
    unfold Task.asserted
    split <;> exact .inl ⟨rfl, nofun⟩
  | updated _ _ _ hsome =>
    -- An update needs a target.
    rw [htarget] at hsome
    cases hsome
  | @created replicas template plan hproceeds _ happly _ hintent h =>
    obtain ⟨-, r, base, -, -, hdesired, -⟩ := planCreate_eq_ok.mp h
    -- A creation desires as many resources as it has names.
    have hlength : (t.created plan).delta.desired.length = (replicas.getD 1).toNat := by
      show plan.desired.length = _
      rw [hdesired, List.length_map, length_replicaNames]
    rw [hlength]
    exact .inr (hproceeds.createsReplicas happly hintent)
  | deleted => exact .inl ⟨rfl, nofun⟩

/-- A task that is not valid ends in an error, and contributes nothing. -/
theorem failed_of_not_valid (h : ¬ t.Valid ctx.settings.maxReplicas) :
    (t.execute ctx).result.phase = .error ∧ (t.execute ctx).delta = Delta.empty := by
  cases hvalid : t.validate ctx.settings with
  | ok replicas => exact absurd (validate_eq_ok_iff_valid.mp hvalid).1 h
  | error e =>
    rw [execute, attempt_eq_error.mpr (.inl hvalid)]
    exact ⟨rfl, rfl⟩

/-- Under the settings of any environment at least one replica is allowed, and the names of
    replicas have a separator.  A task without a target makes no more resources desired than are
    allowed.  A creation makes as many desired as the task says, or one.  Where the task says zero,
    or the `spec` of its template is null, there are none; and where it says less than zero or more
    than is allowed, it ends in an error and contributes nothing. -/
theorem execute_limited (lookup : String → Option String) (t : Task) (ctx : TaskContext)
    (htarget : t.target = none) (hsettings : ctx.settings = Settings.ofLookup lookup) :
    (1 ≤ ctx.settings.maxReplicas.toNat ∧ ctx.settings.separator ≠ "") ∧
      (t.execute ctx).delta.desired.length ≤ ctx.settings.maxReplicas.toNat ∧
      (∀ report, (t.execute ctx).result.outcome = some (.create report) →
        ((t.execute ctx).delta.desired.length : Int) = (t.replicas.map Int32.toInt).getD 1) ∧
      (t.replicas = some 0 ∨
          (∃ template, t.apply = some template ∧ template.member? "spec" = some .null) →
        (t.execute ctx).delta.desired = []) ∧
      ∀ n, t.replicas = some n → n.toInt < 0 ∨ ctx.settings.maxReplicas.toNat < n.toInt →
        (t.execute ctx).result.phase = .error ∧ (t.execute ctx).delta = Delta.empty := by
  have hlimit : 1 ≤ ctx.settings.maxReplicas.toNat := by
    rw [hsettings]
    exact Settings.one_le_maxReplicas_ofLookup lookup
  have hseparator : ctx.settings.separator ≠ "" := by
    rw [hsettings]
    exact Settings.separator_ofLookup_ne lookup
  -- All that follows is read off the two ways in which the task may end.
  have hdesired := (executes_execute t ctx).desired_of_target_none htarget
  refine ⟨⟨hlimit, hseparator⟩, ?atMost, ?exactly, ?deletions, ?refused⟩
  case atMost =>
    rcases hdesired with ⟨hnil, -⟩ | hcreates
    · rw [hnil]
      exact Nat.zero_le _
    · exact hcreates.le_limit hlimit
  case exactly =>
    intro report hreport
    rcases hdesired with ⟨-, hnone⟩ | hcreates
    · exact absurd hreport (hnone report)
    · exact hcreates.count
  case deletions =>
    intro hdelete
    rcases hdesired with ⟨hnil, -⟩ | hcreates
    · exact hnil
    · rcases hdelete with hzero | ⟨template, happly, hspec⟩
      · exact absurd hzero hcreates.replicas
      · exact absurd hspec (hcreates.spec template happly)
  case refused =>
    intro n hn hout
    -- Such a number is refused by the validation, before anything is created.
    refine failed_of_not_valid fun hvalid => ?_
    obtain ⟨hnonneg, hle⟩ := hvalid.replicas n hn
    omega

namespace LimitedPods

/-- An environment that allows for three replicas, with a point before their indices. -/
def environment : String → Option String
  | "CONVERGE_MAX_REPLICAS" => some " +3\n"
  | "CONVERGE_NAME_SEPARATOR" => some "."
  | _ => none

/-- A task that asks for this many pods. -/
def task (replicas : Option Int32) : Task where
  key := "pods"
  desc := none
  guard := none
  assert := none
  apply := some (.obj [("apiVersion", .str "v1"), ("kind", .str "Pod"),
    ("metadata", .obj [("name", .str "web")])])
  target := none
  replicas

/-- Nothing has been observed yet. -/
def context : TaskContext where
  observed := []
  watch := Owner.watch "w-uid" "w"
  run := Owner.run "r-uid" "r"
  merger := threeWay
  settings := Settings.ofLookup environment

end LimitedPods

open LimitedPods in
/-- Three pods are created, or one, or none, and a fourth and a negative one are refused. -/
theorem execute_limited_pods :
    (∀ replicas, (task replicas).target = none) ∧
      context.settings = Settings.ofLookup environment ∧
      context.settings.maxReplicas = 3 ∧ context.settings.separator = "." ∧
      ((task (some 3)).execute context).delta.desired.length = 3 ∧
      ((task none).execute context).delta.desired.length = 1 ∧
      ((task (some 0)).execute context).delta.desired = [] ∧
      ∀ n ∈ [4, -1], ((task (some n)).execute context).result.phase = .error ∧
        ((task (some n)).execute context).delta = Delta.empty := by
  obtain ⟨-, -, hthree, -⟩ := execute_limited environment (task (some 3)) context rfl rfl
  obtain ⟨-, -, hone, -⟩ := execute_limited environment (task none) context rfl rfl
  obtain ⟨-, -, -, hzero, -⟩ := execute_limited environment (task (some 0)) context rfl rfl
  obtain ⟨three, hthree'⟩ : ∃ report,
      ((task (some 3)).execute context).result.outcome = some (.create report) := ⟨_, rfl⟩
  obtain ⟨one, hone'⟩ : ∃ report,
      ((task none).execute context).result.outcome = some (.create report) := ⟨_, rfl⟩
  have hout : ∀ n ∈ ([4, -1] : List Int32),
      n.toInt < 0 ∨ context.settings.maxReplicas.toNat < n.toInt := by
    rw [List.forall_mem_cons, List.forall_mem_singleton]
    exact ⟨.inr (by decide +kernel), .inl (by decide)⟩
  refine ⟨fun _ => rfl, rfl, by decide +kernel, rfl, Int.ofNat_inj.mp (hthree three hthree'),
    Int.ofNat_inj.mp (hone one hone'), hzero (.inl rfl), fun n hn => ?_⟩
  obtain ⟨-, -, -, -, hrefused⟩ := execute_limited environment (task (some n)) context rfl rfl
  exact hrefused n rfl (hout n hn)

end Task

end Reconciler
