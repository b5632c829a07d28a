import Reconciler.Proofs.Selector.Failure

namespace Reconciler

/-!
# A condition as a full scan

A condition reads its field paths once, and with the operator "exists" it ends at the first
resource that its selector picks.  Its answer is nevertheless what one gets by matching every
resource on its own and counting.

* `Selector.picked` — the positions that the matches of single resources give;
* `Condition.scan_all`, `Condition.scan_first` — what the loop finds of them;
* `Condition.Asks` — what an operator asks of their number;
* `Condition.evaluate_eq_ok` — the answer that a condition has;
* `Condition.evaluate_fullScan` — the failures and the answers in one place.
-/

variable {rs : List Resource}

/-! ### The selected positions -/

namespace Selector

variable {s : Selector} {compiled : CompiledSelector}

/-- The positions, from first to last, of the resources that the selector picks when each of
    them is matched on its own. -/
def picked (s : Selector) (rs : List Resource) : List Nat :=
  rs.findIdxs fun r => s.matches r = .ok true

/-- A selector that was compiled once picks the same resources. -/
theorem picked_eq_of_compile (h : s.compile = .ok compiled) (rs : List Resource) :
    s.picked rs = rs.findIdxs compiled.accepts := by
  have hmatches : ∀ r, decide (s.matches r = .ok true) = compiled.accepts r := by
    intro r
    have hr : s.matches r = .ok (compiled.accepts r) := by
      rw [Selector.matches, h]
      rfl
    rw [hr, Bool.eq_iff_iff, decide_eq_true_iff, Except.ok.injEq]
  exact congrArg (rs.findIdxs ·) (funext hmatches)

/-- A selector with a term compiles when all of its field paths read. -/
theorem exists_compile_iff_readable (hterms : s.terms ≠ []) :
    (∃ compiled, s.compile = .ok compiled) ↔ ¬ ∃ path fault, s.Unreadable path fault := by
  constructor
  · rintro ⟨compiled, h⟩ ⟨path, fault, t, ht, expected, hget, hfault⟩
    obtain ⟨-, hvalid⟩ := exists_compile_eq_ok.mp ⟨compiled, h⟩
    obtain ⟨p, hp⟩ := hvalid t ht path expected hget
    rw [hp] at hfault
    cases hfault
  · -- The fault of a selector with terms is one of its paths.
    intro hreadable
    cases h : s.compile with
    | ok compiled => exact ⟨compiled, rfl⟩
    | error e =>
      obtain ⟨path, fault, hbad, -⟩ := unreadable_of_compile hterms h
      exact absurd ⟨path, fault, hbad⟩ hreadable

end Selector

namespace Condition

variable {c : Condition} {o : ConditionOutcome}

/-! ### The loop -/

/-- A scan to the end finds every accepted resource. -/
theorem scan_all (s : CompiledSelector) (pos : Nat) (rs : List Resource) :
    scan s false pos rs = (rs.findIdxs s.accepts pos, pos + rs.length) := by
  induction rs generalizing pos with
  | nil => rfl
  | cons r rest ih =>
    have hlength : pos + 1 + rest.length = pos + (r :: rest).length := by
      rw [List.length_cons]
      omega
    rw [scan, ih, List.findIdxs_cons, hlength]
    split <;> rfl

/-- A scan for the first accepted resource finds it, and looks at no resource behind it. -/
theorem scan_first (s : CompiledSelector) (pos : Nat) (rs : List Resource) :
    scan s true pos rs =
      match rs.findIdxs s.accepts pos with
      | [] => ([], pos + rs.length)
      | first :: _ => ([first], first + 1) := by
  -- On the resources, from any position: the scan stops at the first one that is accepted.
  induction rs generalizing pos with
  | nil => rfl
  | cons r rest ih =>
    have hlength : pos + 1 + rest.length = pos + (r :: rest).length := by
      rw [List.length_cons]
      omega
    rw [scan, List.findIdxs_cons]
    split
    · rfl
    · rw [ih, hlength]

/-- Of the selected positions and the number of resources, what a condition reports: with the
    operator "exists" it has seen the first of the selected ones, if there is one. -/
def reported (c : Condition) (picked : List Nat) (n : Nat) : List Nat × Nat :=
  match c.operator, picked with
  | .exist, first :: _ => ([first], first + 1)
  | _, picked => (picked, n)

/-- A scan that may stop early reports what the positions of all accepted resources tell. -/
theorem scan_eq_reported (c : Condition) (s : CompiledSelector) (rs : List Resource) :
    scan s (c.operator == .exist) 0 rs = c.reported (rs.findIdxs s.accepts) rs.length := by
  unfold reported
  by_cases hop : c.operator = .exist
  · rw [beq_iff_eq.mpr hop, scan_first, hop, Nat.zero_add]
    cases rs.findIdxs s.accepts <;> rfl
  · rw [beq_eq_false_iff_ne.mpr hop, scan_all, Nat.zero_add]
    split
    · next hexist _ => exact absurd hexist hop
    · rfl

/-! ### The answer -/

/-- What the operator asks of the number of selected resources. -/
def Asks (c : Condition) (n : Nat) : Prop :=
  match c.operator with
  | .exist => 0 < n
  | .notExist => n = 0
  | .equalsCount => ∃ count, c.count = some count ∧ (n : Int) = count.toInt
  | .atLeast => ∃ count, c.count = some count ∧ count.toInt ≤ n
  | .atMost => ∃ count, c.count = some count ∧ (n : Int) ≤ count.toInt

/-- A valid condition compares with its own count. -/
theorem Valid.holds_iff (h : c.Valid) (n : Nat) : c.holds n = true ↔ c.Asks n := by
  have hcount : c.operator.needsCount = true → ∃ count, c.count = some count := h.count
  unfold holds Asks
  cases hop : c.operator with
  | exist => simp
  | notExist => simp
  -- These operators have a count, since the condition is valid.
  | equalsCount | atLeast | atMost =>
    rw [hop] at hcount
    obtain ⟨count, hcount⟩ := hcount rfl
    simp [hcount]

/-- The first of the selected resources is enough to know that there is one. -/
theorem holds_reported (c : Condition) (picked : List Nat) (n : Nat) :
    c.holds (c.reported picked n).1.length = c.holds picked.length := by
  unfold reported
  split
  · next first rest hop => simp [holds, hop]
  · rfl

/-- A valid condition over resources is answered by the number of selected ones. -/
theorem evaluate_eq_ok :
    c.evaluate rs = .ok o ↔
      c.Valid ∧ rs ≠ [] ∧ (¬ ∃ path fault, c.selector.Unreadable path fault) ∧
        (o.success = true ↔ c.Asks (c.selector.picked rs).length) ∧
        (o.matched, o.evaluated) = c.reported (c.selector.picked rs) rs.length := by
  rw [evaluate, checkAsked_eq_ok, validate_eq_ok]
  refine and_congr_right fun hvalid => and_congr_right fun hrs => ?_
  -- What is left after the tests is to compile the selector and to scan.
  rw [← Selector.exists_compile_iff_readable hvalid.terms, ← hvalid.holds_iff,
    ← Bool.eq_iff_iff]
  simp only [bind_eq_ok, pure_eq_ok]
  constructor
  · rintro ⟨compiled, hcompile, rfl⟩
    rw [scan_eq_reported, Selector.picked_eq_of_compile hcompile]
    exact ⟨⟨compiled, hcompile⟩, holds_reported _ _ _, rfl⟩
  · rintro ⟨⟨compiled, hcompile⟩, hsuccess, hreported⟩
    refine ⟨compiled, hcompile, ?_⟩
    rw [scan_eq_reported, ← Selector.picked_eq_of_compile hcompile, holds_reported, ← hsuccess,
      ← hreported]

/-- A condition without an answer has one of three causes. -/
theorem exists_evaluate_eq_error :
    (∃ e, c.evaluate rs = .error e) ↔
      c.validate ≠ .ok () ∨ rs = [] ∨ ∃ path fault, c.selector.Unreadable path fault := by
  constructor
  · rintro ⟨e, he⟩
    rcases evaluate_eq_error.mp he with hinvalid | ⟨hvalid, ⟨hrs, -⟩ | ⟨-, hcompile⟩⟩
    · refine .inl fun hvalid => ?_
      rw [hinvalid] at hvalid
      cases hvalid
    · exact .inr (.inl hrs)
    · obtain ⟨path, fault, hbad, -⟩ := Selector.unreadable_of_compile hvalid.terms hcompile
      exact .inr (.inr ⟨path, fault, hbad⟩)
  · intro hcause
    cases he : c.evaluate rs with
    | error e => exact ⟨e, rfl⟩
    | ok o =>
      -- An answer rules out each of the causes.
      obtain ⟨hvalid, hrs, hreadable, -⟩ := evaluate_eq_ok.mp he
      rcases hcause with hinvalid | hnil | hbad
      · exact absurd (validate_eq_ok.mpr hvalid) hinvalid
      · exact absurd hnil hrs
      · exact absurd hbad hreadable

/-- A condition fails exactly when it is not valid, when there are no resources, or when a field
    path of its selector does not read, and the first of these in this order is the failure,
    whatever the resources hold.  Otherwise its operator is asked about the number of resources
    that match one by one; their positions are reported, and that all resources were looked at,
    only that "exists" reports the first position and has looked no further. -/
theorem evaluate_fullScan (c : Condition) (rs : List Resource) :
    ((∃ e, c.evaluate rs = .error e) ↔
        c.validate ≠ .ok () ∨ rs = [] ∨ ∃ path fault, c.selector.Unreadable path fault) ∧
      (∀ e, c.evaluate rs = .error e ↔
        c.validate = .error e ∨
          c.validate = .ok () ∧
            (rs = [] ∧ e = .noCandidates 1 ∨ rs ≠ [] ∧ c.selector.Fault e)) ∧
      ∀ o, c.evaluate rs = .ok o ↔
        c.validate = .ok () ∧ rs ≠ [] ∧ (¬ ∃ path fault, c.selector.Unreadable path fault) ∧
          (o.success = true ↔ c.Asks (c.selector.picked rs).length) ∧
          (o.matched, o.evaluated) = c.reported (c.selector.picked rs) rs.length := by
  refine ⟨exists_evaluate_eq_error, fun e => ?error, fun o => ?answer⟩
  case error => rw [evaluate_eq_error, validate_eq_ok, Selector.compile_eq_error]
  case answer => rw [evaluate_eq_ok, validate_eq_ok]

/-- The second resource is the first service, and the third one is not looked at. -/
example :
    (ofSelector (.ofKind "Service")).evaluate
        [⟨"v1", "Pod", .empty, []⟩, ⟨"v1", "Service", .empty, []⟩, ⟨"v1", "Service", .empty, []⟩] =
      .ok ⟨true, [1], 2⟩ := by
  decide +kernel

end Condition

end Reconciler
