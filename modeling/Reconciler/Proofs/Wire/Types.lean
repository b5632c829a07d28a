import Reconciler.Proofs.Wire.RoundTrip
import Reconciler.Task.Basic

namespace Reconciler

open Wire Wire.Fields

/-!
# The values that specifications and reports are written as

* `SelectorTerm.decode_encode`, `Condition.decode_encode`, … — the values read back, each from
  the values in it;
* `Task.decode_encode`, `Task.apply_of_decode` — a task reads back when the document it applies
  is not null, and no other task is ever read;
* `roundTrips_wireTypes` — all of them together, with what that means for a document that is
  read, written and read again.

A member is looked up by its name among the parts that are written, so the order of the parts
is of no matter below.
-/

variable {name : String} {lookup : String → Option Document}

/-! ### Selectors -/

/-- A table that is left out where it is empty. -/
theorem finds_encodeUnlessEmpty {t : Table String String}
    (hpart : lookup name = encodeUnlessEmpty t) :
    (withDefault name stringTable Table.empty).Finds lookup t := by
  refine finds_unlessAbsent hpart (fun hempty => ?_) (stringTable_ofTable t)
  cases t with
  | mk entries hsorted =>
    obtain rfl := List.isEmpty_iff.mp hempty
    rfl

/-- A term reads back: each of its tables is left out iff it is empty. -/
theorem SelectorTerm.decode_encode (t : SelectorTerm) : decode t.encode = .ok t := by
  refine record_ofParts (((Finds.map ?fields _).seq ?labels).seq ?annotations)
  case fields => exact finds_encodeUnlessEmpty (by simp [part?])
  case labels => exact finds_encodeUnlessEmpty (by simp [part?])
  case annotations => exact finds_encodeUnlessEmpty (by simp [part?])

/-- A selector reads back term by term. -/
theorem Selector.decode_encode (s : Selector) : decode s.encode = .ok s :=
  record_ofParts ((finds_withDefault (by simp [part?])
    (list_written fun t _ => t.decode_encode)).map _)

/-! ### Conditions -/

theorem CountOperator.read_name (o : CountOperator) : variant names (.str o.name) = .ok o :=
  variant_name (fun o => by cases o <;> rfl) o

/-- A condition reads back, with a count or without one. -/
theorem Condition.decode_encode (c : Condition) : decode c.encode = .ok c := by
  refine record_ofParts (((Finds.map ?selector _).seq ?operator).seq ?count)
  case selector => exact finds_required (by simp [part?]) c.selector.decode_encode
  case operator => exact finds_withDefault (by simp [part?]) c.operator.read_name
  case count => exact finds_omittable (by simp [part?]) fun n _ => ⟨rfl, int64_int n⟩

theorem Junction.read_name (j : Junction) : variant names (.str j.name) = .ok j :=
  variant_name (fun j => by cases j <;> rfl) j

theorem Assertion.decode_encode (a : Assertion) : decode a.encode = .ok a := by
  refine record_ofParts ((Finds.map ?junction _).seq ?conditions)
  case junction => exact finds_withDefault (by simp [part?]) a.junction.read_name
  case conditions =>
    exact finds_withDefault (by simp [part?]) (list_written fun c _ => c.decode_encode)

/-! ### Tasks -/

/-- A task reads back.  A null for the document it applies would read as none. -/
theorem Task.decode_encode (t : Task) (happly : t.apply ≠ some .null) :
    decode t.encode = .ok t := by
  have hassertion : ∀ a : Assertion, a.encode.isNull = false ∧ Assertion.decode a.encode = .ok a :=
    fun a => ⟨rfl, a.decode_encode⟩
  refine record_ofParts (((((((Finds.map ?key _).seq ?desc).seq ?guard).seq ?assert).seq
    ?apply).seq ?target).seq ?replicas)
  case key => exact finds_required (by simp [part?]) (string_str _)
  case desc => exact finds_omittable (by simp [part?]) fun s _ => ⟨rfl, string_str s⟩
  case guard => exact finds_omittable (by simp [part?]) fun a _ => hassertion a
  case assert => exact finds_omittable (by simp [part?]) fun a _ => hassertion a
  case apply =>
    -- A null would be read as nothing to apply.
    exact finds_omittable (show _ = t.apply.map id by simp [part?])
      fun d hd => ⟨isNull_of_mem happly hd, rfl⟩
  case target => exact finds_omittable (by simp [part?]) fun s _ => ⟨rfl, s.decode_encode⟩
  case replicas => exact finds_omittable (by simp [part?]) fun n _ => ⟨rfl, int32_int n⟩

/-- Where a document to apply is null, it is read as none. -/
theorem Task.apply_of_decode {d : Document} {t : Task} (h : decode d = .ok t) :
    t.apply ≠ some .null := by
  -- One member after the other is peeled off, from the last one.
  obtain ⟨_, htarget, replicas, -, rfl⟩ := yields_seq (yields_of_record h)
  obtain ⟨_, happly, target, -, rfl⟩ := yields_seq htarget
  obtain ⟨_, hassert, apply, hread, rfl⟩ := yields_seq happly
  obtain ⟨_, hguard, assert, -, rfl⟩ := yields_seq hassert
  obtain ⟨_, hdesc, guard, -, rfl⟩ := yields_seq hguard
  obtain ⟨_, hkey, desc, -, rfl⟩ := yields_seq hdesc
  obtain ⟨key, -, rfl⟩ := yields_map hkey
  exact ne_null_of_yields hread

/-- A task that is a list, and applies a null, reads as one without a document to apply. -/
example : (Task.decode (.arr [.str "scale", .null, .null, .null, .null])).map
    (fun t => (t.key, t.apply.isSome)) = .ok ("scale", false) := rfl

/-- A run spec reads back if no task of it applies a null, which reads as nothing to apply. -/
theorem RunSpec.decode_encode (s : RunSpec) (happly : ∀ t ∈ s.tasks, t.apply ≠ some .null) :
    decode s.encode = .ok s := by
  refine record_ofParts ((Finds.map ?tasks _).seq ?guard)
  case tasks =>
    exact finds_withDefault (by simp [part?])
      (list_written fun t ht => t.decode_encode (happly t ht))
  case guard => exact finds_omittable (by simp [part?]) fun a _ => ⟨rfl, a.decode_encode⟩

/-- No run spec that was read applies a null. -/
theorem RunSpec.apply_of_decode {d : Document} {s : RunSpec} (h : decode d = .ok s) :
    ∀ t ∈ s.tasks, t.apply ≠ some .null := by
  obtain ⟨_, htasks, guard, -, rfl⟩ := yields_seq (yields_of_record h)
  obtain ⟨tasks, hread, rfl⟩ := yields_map htasks
  intro t ht
  -- The tasks are read from a list, or there are none.
  rcases yields_member hread with ⟨d, hd⟩ | habsent | habsent
  · exact forall_mem_of_list (fun _ _ => Task.apply_of_decode) hd t ht
  · cases habsent
    cases ht
  · cases habsent
    cases ht

/-! ### Settings -/

theorem Category.read_name (c : Category) :
    variant (all.map fun c => (c.name, c)) (.str c.name) = .ok c :=
  variant_name (fun c => by cases c <;> rfl) c

/-- The list of categories is complete. -/
theorem Category.mem_all (c : Category) : c ∈ all := by
  cases c <;> decide

/-- Choices that contain the same categories are the same. -/
theorem Categories.ext_contains {s s' : Categories} (h : ∀ c, s.contains c = s'.contains c) :
    s = s' := by
  cases s
  exact congrArg Categories.mk (funext h)

/-- A category is in a set with one more if it is this one or has been there before. -/
theorem Categories.contains_insert (s : Categories) (c c' : Category) :
    (s.insert c').contains c = (decide (c = c') || s.contains c) := rfl

theorem Categories.contains_foldl_insert (cs : List Category) (s : Categories) (c : Category) :
    (cs.foldl (fun s c => s.insert c) s).contains c = (decide (c ∈ cs) || s.contains c) := by
  induction cs generalizing s with
  | nil => simp
  | cons c' cs ih => simp [ih, contains_insert, Bool.or_assoc, Bool.or_left_comm]

/-- The list of a set holds what the set does. -/
theorem Categories.mem_toList {s : Categories} {c : Category} :
    c ∈ s.toList ↔ s.contains c = true := by
  simp [toList, c.mem_all]

/-- A choice of categories is the choice of the categories that are listed of it. -/
theorem Categories.ofList_toList (s : Categories) : ofList s.toList = s :=
  ext_contains fun c => by simp [ofList, contains_foldl_insert, none, mem_toList]

/-- A set of categories reads back from the list of their names. -/
theorem Categories.decode_encode (s : Categories) : decode s.encode = .ok s := by
  have hlist : list (variant (Category.all.map fun c => (c.name, c)))
      (.arr (s.toList.map fun c => .str c.name)) = .ok s.toList :=
    list_written fun c _ => c.read_name
  rw [decode, encode, hlist, Except.map, ofList_toList]

theorem Settings.decode_encode (s : Settings) : decode s.encode = .ok s := by
  refine record_ofParts (((Finds.map ?categories _).seq ?maxReplicas).seq ?separator)
  case categories => exact finds_required (by simp [part?]) s.categories.decode_encode
  case maxReplicas => exact finds_required (by simp [part?]) (uint32_nat s.maxReplicas)
  case separator => exact finds_required (by simp [part?]) (string_str _)

/-! ### Addresses and provenance -/

theorem ResourceId.decode_encode (id : ResourceId) : decode id.encode = .ok id := by
  refine record_ofParts ((((Finds.map ?apiVersion _).seq ?kind).seq ?namespaceName).seq ?name)
  case apiVersion => exact finds_required (by simp [part?]) (string_str _)
  case kind => exact finds_required (by simp [part?]) (string_str _)
  case namespaceName => exact finds_omittable (by simp [part?]) fun s _ => ⟨rfl, string_str s⟩
  case name => exact finds_required (by simp [part?]) (string_str _)

theorem OwnerKind.read_name (k : OwnerKind) : variant names (.str k.name) = .ok k :=
  variant_name (fun k => by cases k <;> rfl) k

theorem Owner.decode_encode (o : Owner) : decode o.encode = .ok o := by
  refine record_ofParts (((Finds.map ?kind _).seq ?uid).seq ?name)
  case kind => exact finds_required (by simp [part?]) o.kind.read_name
  case uid => exact finds_required (by simp [part?]) (string_str _)
  case name => exact finds_required (by simp [part?]) (string_str _)

theorem Provenance.decode_encode (p : Provenance) : decode p.encode = .ok p := by
  refine record_ofParts (((Finds.map ?watch _).seq ?run).seq ?taskKey)
  case watch => exact finds_required (by simp [part?]) p.watch.decode_encode
  case run => exact finds_orNull (by simp [part?]) fun o _ => ⟨rfl, o.decode_encode⟩
  case taskKey => exact finds_orNull (by simp [part?]) fun s _ => ⟨rfl, string_str s⟩

/-! ### Reports -/

theorem PlanPhase.read_name (p : PlanPhase) : variant names (.str p.name) = .ok p :=
  variant_name (fun p => by cases p <;> rfl) p

/-- A list of texts that is left out where it is empty. -/
theorem finds_encodeTexts {xs : List String} (hpart : lookup name = encodeTexts xs) :
    (withDefault name (list string) []).Finds lookup xs :=
  finds_unlessAbsent hpart (fun hempty => (List.isEmpty_iff.mp hempty).symm) (list_string xs)

/-- A report of a creation reads back, with its lists or without them. -/
theorem CreateReport.decode_encode (r : CreateReport) : decode r.encode = .ok r := by
  refine record_ofParts (((Finds.map ?phase _).seq ?message).seq ?created)
  case phase => exact finds_required (by simp [part?]) r.phase.read_name
  case message => exact finds_required (by simp [part?]) (string_str _)
  case created => exact finds_encodeTexts (by simp [part?])

theorem DeleteReport.decode_encode (r : DeleteReport) : decode r.encode = .ok r := by
  refine record_ofParts ((((((((Finds.map ?phase _).seq ?message).seq ?skipped).seq ?desired).seq
    ?explicit).seq ?skippedInfo).seq ?desiredInfo).seq ?explicitInfo)
  case phase => exact finds_required (by simp [part?]) r.phase.read_name
  case message => exact finds_required (by simp [part?]) (string_str _)
  case skipped => exact finds_required (by simp [part?]) (count_nat _)
  case desired => exact finds_required (by simp [part?]) (count_nat _)
  case explicit => exact finds_required (by simp [part?]) (count_nat _)
  case skippedInfo => exact finds_encodeTexts (by simp [part?])
  case desiredInfo => exact finds_encodeTexts (by simp [part?])
  case explicitInfo => exact finds_encodeTexts (by simp [part?])

theorem DiffSummary.decode_encode (s : DiffSummary) : decode s.encode = .ok s := by
  refine record_ofParts (((Finds.map ?adds _).seq ?updates).seq ?removes)
  case adds => exact finds_required (by simp [part?]) (count_nat _)
  case updates => exact finds_required (by simp [part?]) (count_nat _)
  case removes => exact finds_required (by simp [part?]) (count_nat _)

theorem UpdateInfo.decode_encode (i : UpdateInfo) : decode i.encode = .ok i := by
  refine record_ofParts ((Finds.map ?resource _).seq ?diff)
  case resource => exact finds_required (by simp [part?]) (string_str _)
  case diff => exact finds_required (by simp [part?]) i.diff.decode_encode

/-- A list of entries that is left out where it is empty. -/
theorem finds_encodeUpdates {xs : List UpdateInfo} (hpart : lookup name = encodeUpdates xs) :
    (withDefault name (list UpdateInfo.decode) []).Finds lookup xs :=
  finds_unlessAbsent hpart (fun hempty => (List.isEmpty_iff.mp hempty).symm)
    (list_written fun i _ => i.decode_encode)

theorem UpdateReport.decode_encode (r : UpdateReport) : decode r.encode = .ok r := by
  refine record_ofParts ((((((Finds.map ?phase _).seq ?message).seq ?desired).seq ?explicit).seq
    ?desiredInfo).seq ?explicitInfo)
  case phase => exact finds_required (by simp [part?]) r.phase.read_name
  case message => exact finds_required (by simp [part?]) (string_str _)
  case desired => exact finds_required (by simp [part?]) (count_nat _)
  case explicit => exact finds_required (by simp [part?]) (count_nat _)
  case desiredInfo => exact finds_encodeUpdates (by simp [part?])
  case explicitInfo => exact finds_encodeUpdates (by simp [part?])

/-! ### All of them -/

/-- The values of specifications, settings, addresses and reports read back from what is
    written of them, whatever they hold.  Only a task must not hold everything: a null for the
    document it applies would read as none, so it is a null that is never read. -/
theorem roundTrips_wireTypes :
    RoundTrips SelectorTerm.decode SelectorTerm.encode (fun _ => True) ∧
    RoundTrips Selector.decode Selector.encode (fun _ => True) ∧
    RoundTrips Condition.decode Condition.encode (fun _ => True) ∧
    RoundTrips Assertion.decode Assertion.encode (fun _ => True) ∧
    RoundTrips Task.decode Task.encode (fun t => t.apply ≠ some .null) ∧
    RoundTrips RunSpec.decode RunSpec.encode (fun s => ∀ t ∈ s.tasks, t.apply ≠ some .null) ∧
    RoundTrips Settings.decode Settings.encode (fun _ => True) ∧
    RoundTrips Categories.decode Categories.encode (fun _ => True) ∧
    RoundTrips ResourceId.decode ResourceId.encode (fun _ => True) ∧
    RoundTrips Provenance.decode Provenance.encode (fun _ => True) ∧
    RoundTrips CreateReport.decode CreateReport.encode (fun _ => True) ∧
    RoundTrips DeleteReport.decode DeleteReport.encode (fun _ => True) ∧
    RoundTrips UpdateReport.decode UpdateReport.encode (fun _ => True) := by
  refine ⟨?_, ?_, ?_, ?_, ?_, ?_, ?_, ?_, ?_, ?_, ?_, ?_, ?_⟩
  · exact roundTrips_of_forall SelectorTerm.decode_encode
  · exact roundTrips_of_forall Selector.decode_encode
  · exact roundTrips_of_forall Condition.decode_encode
  · exact roundTrips_of_forall Assertion.decode_encode
  · -- Documents to apply are the only values that do not all read back.
    exact roundTrips_of_written Task.decode_encode fun _ _ => Task.apply_of_decode
  · exact roundTrips_of_written RunSpec.decode_encode fun _ _ => RunSpec.apply_of_decode
  · exact roundTrips_of_forall Settings.decode_encode
  · exact roundTrips_of_forall Categories.decode_encode
  · exact roundTrips_of_forall ResourceId.decode_encode
  · exact roundTrips_of_forall Provenance.decode_encode
  · exact roundTrips_of_forall CreateReport.decode_encode
  · exact roundTrips_of_forall DeleteReport.decode_encode
  · exact roundTrips_of_forall UpdateReport.decode_encode

end Reconciler
