import Reconciler.Proofs.Wire.Reading

namespace Reconciler.Wire

/-!
# Values that read back

What is written of a value should read as that value.  A value has no more than one written
form, but many documents may read as it: members may come in another order, or as a list, or
not at all where they have a value for their absence.  All of them are brought into the
written form by reading and writing once.

* `RoundTrips` — the property of a reader and a writer;
* `count_nat`, `int64_int`, `list_written`, `variant_name` — values without members;
* `Fields.Finds` — members that are looked up among those that are written;
* `Fields.finds_required`, `Fields.finds_omittable`, `Fields.finds_unlessAbsent` — one member,
  by what becomes of it when it is written;
* `Fields.Yields` — the members that an object or a list gives.
-/

variable {α β : Type} {value : Decoder α} {encode : α → Document} {P : α → Prop}

/-- Writing what has the property `P` and reading it loses nothing, and nothing else can be
    read. -/
structure RoundTrips (value : Decoder α) (encode : α → Document) (P : α → Prop) : Prop where
  /-- What is written of a value reads as that value. -/
  written : ∀ x, P x → value (encode x) = .ok x
  /-- What is read has the property. -/
  read : ∀ d x, value d = .ok x → P x
  /-- To read a document, to write what was read and to read that is to read the document. -/
  again : ∀ d, (do value (encode (← value d))) = value d

/-- It is enough that values with the property read back and that no others are read. -/
theorem roundTrips_of_written (hwritten : ∀ x, P x → value (encode x) = .ok x)
    (hread : ∀ d x, value d = .ok x → P x) : RoundTrips value encode P where
  written := hwritten
  read := hread
  again d := by
    cases hd : value d with
    -- What does not read is not written, and fails as it did.
    | error e => rfl
    | ok x => exact hwritten x (hread d x hd)

/-- Where every value reads back, there is nothing to be said of what is read. -/
theorem roundTrips_of_forall (h : ∀ x, value (encode x) = .ok x) :
    RoundTrips value encode fun _ => True :=
  roundTrips_of_written (fun x _ => h x) fun _ _ _ => trivial

/-! ### Values without members -/

theorem string_str (s : String) : string (.str s) = .ok s := rfl

/-- A number within the bounds reads back. -/
theorem integer_int {type : String} {least most n : Int} (hleast : least ≤ n) (hmost : n ≤ most) :
    integer type least most (.int n) = .ok n :=
  if_pos ⟨hleast, hmost⟩

@[simp] theorem int64_int (n : Int64) : int64 (.int n.toInt) = .ok n := by
  have hleast : -0x8000000000000000 ≤ n.toInt := n.le_toInt
  have hmost : n.toInt ≤ 0x7FFFFFFFFFFFFFFF := n.toInt_le
  rw [int64, integer_int hleast hmost, Except.map, Int64.ofInt_toInt]

@[simp] theorem int32_int (n : Int32) : int32 (.int n.toInt) = .ok n := by
  have hleast : -0x80000000 ≤ n.toInt := n.le_toInt
  have hmost : n.toInt ≤ 0x7FFFFFFF := n.toInt_le
  rw [int32, integer_int hleast hmost, Except.map, Int32.ofInt_toInt]

@[simp] theorem uint32_nat (n : UInt32) : uint32 (.nat n.toNat) = .ok n := by
  have hmost : (n.toNat : Int) ≤ 0xFFFFFFFF := by
    have := n.toNat_lt
    omega
  have hread : integer "u32" 0 0xFFFFFFFF (.nat n.toNat) = .ok (n.toNat : Int) :=
    integer_int (Int.natCast_nonneg _) hmost
  rw [uint32, hread, Except.map, Int.toNat_natCast, UInt32.ofNat_toNat]

@[simp] theorem count_nat (n : Nat) : count (.nat n) = .ok n := by
  simp only [count, Document.nat, Int.natCast_nonneg, if_true, Int.toNat_natCast]

/-- The items of a list come back changed by `g` when each of them does. -/
theorem list_written_map {value : Decoder β} {g : α → β} {xs : List α}
    (h : ∀ x ∈ xs, value (encode x) = .ok (g x)) :
    list value (.arr (xs.map encode)) = .ok (xs.map g) := by
  refine list_eq_ok.mpr ⟨_, rfl, ?_⟩
  rw [List.forall₂_map_left_iff, List.forall₂_map_right_iff, List.forall₂_same]
  exact h

/-- A list reads back when its items do. -/
theorem list_written {xs : List α} (h : ∀ x ∈ xs, value (encode x) = .ok x) :
    list value (.arr (xs.map encode)) = .ok xs := by
  have hmap := list_written_map (g := id) h
  rwa [List.map_id] at hmap

/-- What holds for all that is read as an item holds for the items of a list. -/
theorem forall_mem_of_list {ys : List α} {d : Document} (h : ∀ d x, value d = .ok x → P x)
    (hd : list value d = .ok ys) : ∀ y ∈ ys, P y := by
  obtain ⟨items, -, hread⟩ := list_eq_ok.mp hd
  intro y hy
  obtain ⟨d, -, hd⟩ := exists_left_of_forall₂ hread hy
  exact h d y hd

theorem list_string (xs : List String) : list string (.arr (xs.map .str)) = .ok xs :=
  list_written fun s _ => string_str s

/-- A variant reads back from a name that is known for it alone. -/
theorem variant_name {known : List (String × α)} {name : α → String}
    (h : ∀ x, known.lookup (name x) = some x) (x : α) :
    variant known (.str (name x)) = .ok x := by
  simp only [variant, variantNamed, h]

/-! ### Members as they are written -/

variable {name : String} {lookup : String → Option Document}

/-- The members read as `x` where they are looked up like this. -/
def Fields.Finds (fields : Fields α) (lookup : String → Option Document) (x : α) : Prop :=
  fields.ofLookup lookup = .ok x

namespace Fields

/-- Two groups of members are found when each of them is. -/
theorem Finds.seq {f : Fields (α → β)} {g : Fields α} {h : α → β} {x : α}
    (hf : f.Finds lookup h) (hg : g.Finds lookup x) : (f <*> g).Finds lookup (h x) := by
  rw [Finds] at hf hg ⊢
  rw [ofLookup_seq, hf, hg]
  rfl

theorem Finds.map {g : Fields α} {x : α} (hg : g.Finds lookup x) (h : α → β) :
    (h <$> g).Finds lookup (h x) := by
  rw [Finds] at hg ⊢
  rw [ofLookup_map, hg]
  rfl

/-- A member that is there reads as its value, whatever its absence means. -/
theorem finds_member {absent absentInRow : Option α} {d : Document} {x : α}
    (hpart : lookup name = some d) (hread : value d = .ok x) :
    (member name value absent absentInRow).Finds lookup x := by
  simp only [Finds, member, hpart, hread]

/-- A required member is found where it is written. -/
theorem finds_required {d : Document} {x : α} (hpart : lookup name = some d)
    (hread : value d = .ok x) : (required name value).Finds lookup x :=
  finds_member hpart hread

/-- A member with a default is found where it is written. -/
theorem finds_withDefault {absent : α} {d : Document} {x : α}
    (hpart : lookup name = some d) (hread : value d = .ok x) :
    (withDefault name value absent).Finds lookup x :=
  finds_member hpart hread

/-- A member that is left out where it has the value for its absence. -/
theorem finds_unlessAbsent {absent : α} {d : Document} {x : α} {left : Bool}
    (hpart : lookup name = if left then none else some d)
    (habsent : left = true → absent = x) (hread : value d = .ok x) :
    (withDefault name value absent).Finds lookup x := by
  cases left with
  | false => exact finds_withDefault hpart hread
  | true =>
    rw [if_pos rfl] at hpart
    simp only [Finds, withDefault, member, hpart, habsent]

/-- A written value that is not null is read as this value. -/
theorem nullable_of_ok {d : Document} {x : α} (hnull : d.isNull = false)
    (hread : value d = .ok x) : nullable value d = .ok (some x) :=
  nullable_eq_ok.mpr (.inr ⟨hnull, x, hread, rfl⟩)

/-- A document that may be missing but not null is not null where it is there. -/
theorem isNull_of_mem {x : Option Document} (h : x ≠ some .null) {d : Document} (hd : d ∈ x) :
    d.isNull = false := by
  cases d with
  | null => exact absurd hd h
  | _ => rfl

/-- A member that is left out where it is none, and comes back changed by `g`.  What is
    written must not be null, which would read as none. -/
theorem finds_omittable_map {value : Decoder β} {g : α → β} {x : Option α}
    (hpart : lookup name = x.map encode)
    (hread : ∀ y ∈ x, (encode y).isNull = false ∧ value (encode y) = .ok (g y)) :
    (omittable name value).Finds lookup (x.map g) := by
  cases x with
  | none => simp only [Finds, omittable, member, hpart, Option.map_none]
  | some y =>
    obtain ⟨hnull, hy⟩ := hread y rfl
    exact finds_member hpart (nullable_of_ok hnull hy)

/-- A member that is left out when there is none is found, if its value is never written as null. -/
theorem finds_omittable {x : Option α} (hpart : lookup name = x.map encode)
    (hread : ∀ y ∈ x, (encode y).isNull = false ∧ value (encode y) = .ok y) :
    (omittable name value).Finds lookup x := by
  have h := finds_omittable_map (g := id) hpart hread
  rwa [Option.map_id] at h

/-- A member that is null where it is none. -/
theorem finds_orNull {x : Option α} (hpart : lookup name = some (orNull encode x))
    (hread : ∀ y ∈ x, (encode y).isNull = false ∧ value (encode y) = .ok y) :
    (omittableByName name value).Finds lookup x := by
  refine finds_member hpart ?_
  cases x with
  | none => rfl
  | some y =>
    obtain ⟨hnull, hy⟩ := hread y rfl
    exact nullable_of_ok hnull hy

end Fields

/-! ### Members of an object or of a list -/

/-- The members read as `x` from some object, or from the elements of some list. -/
def Fields.Yields (fields : Fields α) (x : α) : Prop :=
  (∃ lookup, fields.ofLookup lookup = .ok x) ∨
    ∃ short pos row rest, fields.ofRow short pos row = .ok (x, rest)

namespace Fields

theorem yields_seq {f : Fields (α → β)} {g : Fields α} {y : β} (h : (f <*> g).Yields y) :
    ∃ k, f.Yields k ∧ ∃ x, g.Yields x ∧ k x = y := by
  rcases h with ⟨lookup, h⟩ | ⟨short, pos, row, rest, h⟩
  · rw [ofLookup_seq] at h
    simp only [bind_eq_ok, pure_eq_ok] at h
    obtain ⟨k, hk, x, hx, rfl⟩ := h
    exact ⟨k, .inl ⟨lookup, hk⟩, x, .inl ⟨lookup, hx⟩, rfl⟩
  · -- In a row the second group goes on where the first one has stopped.
    obtain ⟨⟨k, row'⟩, hk, h⟩ := bind_eq_ok.mp h
    obtain ⟨⟨x, row''⟩, hx, h⟩ := bind_eq_ok.mp h
    obtain ⟨rfl, rfl⟩ := Prod.mk.inj (pure_eq_ok.mp h)
    exact ⟨k, .inr ⟨short, pos, row, row', hk⟩, x, .inr ⟨short, _, row', row'', hx⟩, rfl⟩

theorem yields_map {k : α → β} {g : Fields α} {y : β} (h : (k <$> g).Yields y) :
    ∃ x, g.Yields x ∧ k x = y := by
  -- Mapping is applying a constant, which yields itself and nothing else.
  have hseq : (pure k <*> g).Yields y := h
  obtain ⟨k', hk, x, hx, rfl⟩ := yields_seq hseq
  obtain rfl : k = k' := by
    rcases hk with ⟨_, hk⟩ | ⟨_, _, _, _, hk⟩
    · exact Except.ok.inj hk
    · exact (Prod.mk.inj (Except.ok.inj hk)).1
  exact ⟨x, hx, rfl⟩

/-- What a member yields is read of a document, or it stands for its absence. -/
theorem yields_member {absent absentInRow : Option α} {x : α}
    (h : (member name value absent absentInRow).Yields x) :
    (∃ d, value d = .ok x) ∨ absent = some x ∨ absentInRow = some x := by
  rcases h with ⟨lookup, h⟩ | ⟨short, pos, row, rest, h⟩ <;> simp only [member] at h
  · -- The member of an object, by its name, or its default.
    cases hlookup : lookup name with
    | some d =>
      rw [hlookup] at h
      exact .inl ⟨d, h⟩
    | none =>
      rw [hlookup] at h
      cases absent with
      | none => cases h
      | some y => exact .inr (.inl (congrArg some (Except.ok.inj h)))
  · -- The next item of a row, or the default for a short row.
    cases row with
    | cons d row =>
      obtain ⟨y, hy, h⟩ := bind_eq_ok.mp h
      obtain ⟨rfl, -⟩ := Prod.mk.inj (pure_eq_ok.mp h)
      exact .inl ⟨d, hy⟩
    | nil =>
      cases absentInRow with
      | none => cases h
      | some y => exact .inr (.inr (congrArg some (Prod.mk.inj (Except.ok.inj h)).1))

/-- A null is read as none, so no document that is read is null. -/
theorem ne_null_of_yields {x : Option Document} (h : (omittable name .ok).Yields x) :
    x ≠ some .null := by
  rintro rfl
  rcases yields_member h with ⟨d, hd⟩ | habsent | habsent
  · cases d <;> cases hd
  · cases habsent
  · cases habsent

end Fields

/-- What is read as a record is something that its members give, from an object or from a list. -/
theorem yields_of_record {fields : Fields α} {d : Document} {x : α}
    (h : record name fields d = .ok x) : fields.Yields x := by
  cases d with
  | obj members => exact .inl ⟨_, ofObject_eq_ok.mp h⟩
  | arr row =>
    obtain ⟨⟨y, rest⟩, hrow, h⟩ := bind_eq_ok.mp h
    dsimp only at h
    -- A row must end with the last member.
    split at h
    · obtain rfl := pure_eq_ok.mp h
      exact .inr ⟨_, _, row, rest, hrow⟩
    · exact absurd h throw_ne_ok
  | _ => exact absurd h (by simp [record, wrongKind])

end Reconciler.Wire
