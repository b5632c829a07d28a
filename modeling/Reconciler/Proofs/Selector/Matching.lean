import Reconciler.Proofs.Entries
import Reconciler.Proofs.Resource.Access
import Reconciler.Proofs.Success
import Reconciler.Selector.Basic

namespace Reconciler

/-!
# What a selector selects

Whether a selector has an answer is decided by its terms alone.  The answer itself is what one
reads off the terms: one of them must hold, and it holds when the resource has everything that
it asks for.

* `Document.HasText` — the texts that values are compared as;
* `SelectorTerm.Valid`, `SelectorTerm.Holds` — a term that has an answer, and one that holds
  for a resource;
* `SelectorTerm.matches_eq_ok`, `Selector.matches_eq_ok` — the answers;
* `SelectorTerm.Fault`, `Selector.Fault` — what is wrong with those that have no answer;
* `Selector.exists_matches_eq_error`, `Selector.cause_of_matches_eq_error` — the failures;
* `Selector.matches_append`, `SelectorTerm.matches_both` — alternatives of two selectors, and
  the demands of two terms;
* `Selector.matches_semantics` — all of this in one place.
-/

variable {d : Document} {r : Resource} {b : Bool}

/-- A string, a number or a boolean has this text.  Nothing else has one. -/
inductive Document.HasText : Document → String → Prop
  | str (s : String) : HasText (.str s) s
  | num (n : Number) : HasText (.num n) (String.ofList n.text)
  | yes : HasText (.bool true) "true"
  | no : HasText (.bool false) "false"

/-- The matcher compares by the text of a text, a number or a boolean, and by nothing else. -/
theorem Document.scalarText?_eq_some {text : String} :
    d.scalarText? = some text ↔ d.HasText text := by
  constructor
  · intro h
    unfold scalarText? at h
    split at h
    · obtain rfl := Option.some.inj h
      exact .str _
    · obtain rfl := Option.some.inj h
      exact .num _
    · next b =>
      obtain rfl := Option.some.inj h
      -- The two booleans have a text each.
      cases b with
      | true => exact .yes
      | false => exact .no
    · cases h
  · rintro (_ | _ | _ | _) <;> rfl

namespace SelectorTerm

variable {t u : SelectorTerm} {c : CompiledTerm}

/-! ### Terms -/

/-- All field paths of the term read. -/
def Valid (t : SelectorTerm) : Prop :=
  ∀ path expected, t.fields.get? path = some expected → ∃ p, FieldPath.parse path = .ok p

/-- At the path the document of the resource has a string, a number or a boolean with this
    text. -/
def FieldHolds (r : Resource) (path expected : String) : Prop :=
  ∃ p d, FieldPath.parse path = .ok p ∧ p.get? r.encode = some d ∧ d.HasText expected

/-- A table of the metadata is there and has this value. -/
def EntryHolds (table? : Option (Table String String)) (key expected : String) : Prop :=
  ∃ table, table? = some table ∧ table.get? key = some expected

/-- The resource has every label, every annotation and every field that the term asks for. -/
structure Holds (t : SelectorTerm) (r : Resource) : Prop where
  labels : ∀ key expected, t.labels.get? key = some expected →
    EntryHolds r.metadata.labels key expected
  annotations : ∀ key expected, t.annotations.get? key = some expected →
    EntryHolds r.metadata.annotations key expected
  fields : ∀ path expected, t.fields.get? path = some expected → FieldHolds r path expected

/-- Reads the path of one field. -/
def readField (e : String × String) : Except SelectError (FieldPath × String) :=
  ((FieldPath.parse e.1).mapError (.field e.1)).map (·, e.2)

/-- The path of an entry is read, and its value stays. -/
theorem readField_eq_ok {e : String × String} {f : FieldPath × String} :
    readField e = .ok f ↔ FieldPath.parse e.1 = .ok f.1 ∧ e.2 = f.2 := by
  simp only [readField, map_eq_ok, mapError_eq_ok, Prod.ext_iff]
  constructor
  · rintro ⟨p, hp, rfl, hexpected⟩
    exact ⟨hp, hexpected⟩
  · rintro ⟨hp, hexpected⟩
    exact ⟨f.1, hp, rfl, hexpected⟩

/-- An entry is refused iff its path does not read, with the fault of the path. -/
theorem readField_eq_error {e : String × String} {x : SelectError} :
    readField e = .error x ↔
      ∃ fault, FieldPath.parse e.1 = .error fault ∧ x = .field e.1 fault := by
  unfold readField
  cases FieldPath.parse e.1 with
  | ok p => simp [Except.mapError, Except.map]
  | error fault => simp [Except.mapError, Except.map, eq_comm]

/-- Compiling a term is reading its field paths, in the order of their texts. -/
theorem compile_eq (t : SelectorTerm) :
    t.compile = do return ⟨← t.fields.entries.mapM readField, t.labels, t.annotations⟩ := by
  have hcongr : ∀ read, (∀ e, read e = readField e) →
      (do return CompiledTerm.mk (← t.fields.entries.mapM read) t.labels t.annotations) =
        do return CompiledTerm.mk (← t.fields.entries.mapM readField) t.labels t.annotations := by
    intro read hread
    rw [funext hread]
  refine hcongr _ fun e => ?_
  obtain ⟨path, expected⟩ := e
  dsimp only [readField]
  cases FieldPath.parse path <;> rfl

/-- A term compiles iff all of its field paths read. -/
theorem compile_eq_ok :
    t.compile = .ok c ↔
      List.Forall₂ (fun e f => FieldPath.parse e.1 = .ok f.1 ∧ e.2 = f.2) t.fields.entries
          c.fields ∧
        t.labels = c.labels ∧ t.annotations = c.annotations := by
  simp only [compile_eq, bind_eq_ok, pure_eq_ok, mapM_eq_ok, readField_eq_ok]
  constructor
  · rintro ⟨fields, hfields, rfl⟩
    exact ⟨hfields, rfl, rfl⟩
  · rintro ⟨hfields, hlabels, hannotations⟩
    exact ⟨c.fields, hfields, by rw [hlabels, hannotations]⟩

/-- Of the field paths of the term this is the first one that does not read. -/
inductive Fault (t : SelectorTerm) : SelectError → Prop
  | field {before after : List (String × String)} {path expected : String} {fault : PathError}
      (hentries : t.fields.entries = before ++ (path, expected) :: after)
      (hbefore : ∀ e ∈ before, ∃ p, FieldPath.parse e.1 = .ok p)
      (h : FieldPath.parse path = .error fault) : Fault t (.field path fault)

/-- A term is refused iff a path of it does not read, and the first such path is the fault. -/
theorem compile_eq_error {x : SelectError} : t.compile = .error x ↔ t.Fault x := by
  -- Whether an entry can be read is a matter of its path.
  have hread : ∀ e, (∃ f, readField e = .ok f) ↔ ∃ p, FieldPath.parse e.1 = .ok p := by
    intro e
    simp only [readField, map_eq_ok, mapError_eq_ok]
    constructor
    · rintro ⟨_, p, hp, -⟩
      exact ⟨p, hp⟩
    · rintro ⟨p, hp⟩
      exact ⟨_, p, hp, rfl⟩
  have hcompile : t.compile = .error x ↔ t.fields.entries.mapM readField = .error x := by
    rw [compile_eq, bind_eq_error_of_ok]
    exact fun _ => ⟨_, rfl⟩
  simp only [hcompile, mapM_eq_error, hread, readField_eq_error]
  constructor
  · rintro ⟨before, e, after, hentries, hbefore, fault, hfault, rfl⟩
    exact .field hentries hbefore hfault
  · intro h
    cases h with
    | field hentries hbefore hfault => exact ⟨_, _, _, hentries, hbefore, _, hfault, rfl⟩

/-- The fault of a term is that of one of its field paths. -/
theorem Fault.exists_get? {x : SelectError} (h : t.Fault x) :
    ∃ path expected fault, t.fields.get? path = some expected ∧
      FieldPath.parse path = .error fault ∧ x = .field path fault := by
  cases h with
  | @field _ _ path expected fault hentries _ hfault =>
    have hmem : (path, expected) ∈ t.fields.entries := by simp [hentries]
    exact ⟨path, expected, fault, Table.mem_entries_iff.mp hmem, hfault, rfl⟩

/-- Exactly the valid terms compile. -/
theorem exists_compile_eq_ok : (∃ c, t.compile = .ok c) ↔ t.Valid := by
  -- The entries are read when the path of each of them is.
  have hfields : (∃ fields, t.fields.entries.mapM readField = .ok fields) ↔ t.Valid := by
    simp only [exists_mapM_eq_ok, readField_eq_ok, Prod.forall, Table.mem_entries_iff, Valid,
      Prod.exists, exists_and_left, exists_eq', and_true]
  rw [← hfields, compile_eq]
  constructor
  · rintro ⟨c, h⟩
    obtain ⟨fields, hread, -⟩ := bind_eq_ok.mp h
    exact ⟨fields, hread⟩
  · rintro ⟨fields, hread⟩
    exact ⟨_, bind_eq_ok.mpr ⟨fields, hread, rfl⟩⟩

/-- A compiled term asks for its entries one by one. -/
theorem accepts_iff_forall :
    c.accepts r = true ↔
      (∀ e ∈ c.labels.entries, EntryHolds r.metadata.labels e.1 e.2) ∧
        (∀ e ∈ c.annotations.entries, EntryHolds r.metadata.annotations e.1 e.2) ∧
        ∀ f ∈ c.fields, ∃ x, r.getPath? f.1 = some x ∧ x.HasText f.2 := by
  simp only [CompiledTerm.accepts, Bool.and_eq_true, List.all_eq_true, beq_iff_eq, and_assoc,
    Resource.label?, Resource.annotation?, EntryHolds, Option.bind_eq_some_iff,
    Document.scalarText?_eq_some]

/-- The entries of a table are what it has for its keys. -/
theorem forall_entries_iff (table : Table String String) (P : String → String → Prop) :
    (∀ e ∈ table.entries, P e.1 e.2) ↔
      ∀ key expected, table.get? key = some expected → P key expected := by
  simp only [Prod.forall, Table.mem_entries_iff]

/-- The compiled fields are as good as those of the term. -/
theorem forall_fields_iff (hr : Resource.decode d = .ok r) (hc : t.compile = .ok c) :
    (∀ f ∈ c.fields, ∃ x, r.getPath? f.1 = some x ∧ x.HasText f.2) ↔
      ∀ path expected, t.fields.get? path = some expected → FieldHolds r path expected := by
  obtain ⟨hfields, -⟩ := compile_eq_ok.mp hc
  simp only [Resource.getPath?_eq hr]
  constructor
  · intro hcompiled path expected hget
    obtain ⟨⟨p, _⟩, hmem, hparse, rfl⟩ :=
      exists_right_of_forall₂ hfields (Table.mem_entries_iff.mpr hget)
    obtain ⟨x, hx, htext⟩ := hcompiled _ hmem
    exact ⟨p, x, hparse, hx, htext⟩
  · intro hterm f hmem
    obtain ⟨e, hentry, hparse, hexpected⟩ := exists_left_of_forall₂ hfields hmem
    obtain ⟨p, x, hparse', hx, htext⟩ := hterm e.1 e.2 (Table.mem_entries_iff.mp hentry)
    -- The path of a field reads in one way only.
    obtain rfl := ok_unique hparse hparse'
    exact ⟨x, hx, hexpected ▸ htext⟩

/-- A compiled term accepts the resources for which the term holds. -/
theorem accepts_iff (hr : Resource.decode d = .ok r) (hc : t.compile = .ok c) :
    c.accepts r = true ↔ t.Holds r := by
  obtain ⟨-, hlabels, hannotations⟩ := compile_eq_ok.mp hc
  rw [accepts_iff_forall, forall_fields_iff hr hc, ← hlabels, ← hannotations,
    forall_entries_iff t.labels (EntryHolds r.metadata.labels),
    forall_entries_iff t.annotations (EntryHolds r.metadata.annotations)]
  constructor
  · rintro ⟨hl, ha, hf⟩
    exact ⟨hl, ha, hf⟩
  · rintro ⟨hl, ha, hf⟩
    exact ⟨hl, ha, hf⟩

/-- A term has an answer when its paths read, and the answer is whether it holds. -/
theorem matches_eq_ok (hr : Resource.decode d = .ok r) :
    t.matches r = .ok b ↔ t.Valid ∧ (b = true ↔ t.Holds r) := by
  rw [SelectorTerm.matches, test_eq_ok fun c hc => accepts_iff hr hc, exists_compile_eq_ok]

/-! ### The demands of two terms -/

/-- Asks for everything that either term asks for. -/
def both (t u : SelectorTerm) : SelectorTerm :=
  ⟨t.fields.extend u.fields, t.labels.extend u.labels, t.annotations.extend u.annotations⟩

/-- Where both terms ask for a value, they ask for the same one. -/
structure Compatible (t u : SelectorTerm) : Prop where
  fields : t.fields.Compatible u.fields
  labels : t.labels.Compatible u.labels
  annotations : t.annotations.Compatible u.annotations

/-- Both paths of a merged entry are one, so nothing else is read. -/
theorem valid_both (h : t.Compatible u) : (t.both u).Valid ↔ t.Valid ∧ u.Valid :=
  Table.forall_extend h.fields _

/-- A resource meets both terms iff it meets each of them. -/
theorem holds_both (h : t.Compatible u) : (t.both u).Holds r ↔ t.Holds r ∧ u.Holds r := by
  have hlabels := Table.forall_extend h.labels (EntryHolds r.metadata.labels)
  have hannotations := Table.forall_extend h.annotations (EntryHolds r.metadata.annotations)
  have hfields := Table.forall_extend h.fields (FieldHolds r)
  constructor
  · rintro ⟨hl, ha, hf⟩
    obtain ⟨htl, hul⟩ := hlabels.mp hl
    obtain ⟨hta, hua⟩ := hannotations.mp ha
    obtain ⟨htf, huf⟩ := hfields.mp hf
    exact ⟨⟨htl, hta, htf⟩, hul, hua, huf⟩
  · rintro ⟨ht, hu⟩
    exact ⟨hlabels.mpr ⟨ht.labels, hu.labels⟩,
      hannotations.mpr ⟨ht.annotations, hu.annotations⟩, hfields.mpr ⟨ht.fields, hu.fields⟩⟩

/-- The demands of two terms are met when those of each are. -/
theorem matches_both (hr : Resource.decode d = .ok r) (h : t.Compatible u) :
    (t.both u).matches r = .ok b ↔
      ∃ b₁ b₂, t.matches r = .ok b₁ ∧ u.matches r = .ok b₂ ∧ (b₁ && b₂) = b := by
  simp only [matches_eq_ok hr, valid_both h, holds_both h]
  constructor
  · rintro ⟨⟨ht, hu⟩, hb⟩
    -- Both terms have an answer, since the paths of both read.
    classical
    refine ⟨decide (t.Holds r), decide (u.Holds r), ⟨ht, decide_eq_true_iff⟩,
      ⟨hu, decide_eq_true_iff⟩, ?_⟩
    rw [Bool.eq_iff_iff, hb, Bool.and_eq_true, decide_eq_true_iff, decide_eq_true_iff]
  · rintro ⟨b₁, b₂, ⟨ht, hb₁⟩, ⟨hu, hb₂⟩, rfl⟩
    exact ⟨⟨ht, hu⟩, by rw [Bool.and_eq_true, hb₁, hb₂]⟩

end SelectorTerm

namespace Selector

variable {s s' : Selector} {c : CompiledSelector}

/-! ### Selectors -/

/-- Compiling a selector with terms is compiling each of them. -/
theorem compile_eq_of_ne_nil (h : s.terms ≠ []) :
    s.compile = do return ⟨← s.terms.mapM SelectorTerm.compile⟩ :=
  if_neg (by simpa using h)

/-- A selector compiles iff it has terms and all of them compile. -/
theorem compile_eq_ok :
    s.compile = .ok c ↔
      s.terms ≠ [] ∧ List.Forall₂ (fun t ct => t.compile = .ok ct) s.terms c.terms := by
  by_cases h : s.terms = []
  · simp [compile, h]
  · simp only [compile_eq_of_ne_nil h, bind_eq_ok, pure_eq_ok, mapM_eq_ok, ne_eq, h,
      not_false_eq_true, true_and]
    constructor
    · rintro ⟨terms, hterms, rfl⟩
      exact hterms
    · intro hterms
      exact ⟨c.terms, hterms, rfl⟩

/-- A selector compiles iff it has terms and all of them are valid. -/
theorem exists_compile_eq_ok :
    (∃ c, s.compile = .ok c) ↔ s.terms ≠ [] ∧ ∀ t ∈ s.terms, t.Valid := by
  simp only [← SelectorTerm.exists_compile_eq_ok, ← exists_mapM_eq_ok, compile_eq_ok, mapM_eq_ok]
  constructor
  · rintro ⟨c, h, hterms⟩
    exact ⟨h, c.terms, hterms⟩
  · rintro ⟨h, terms, hterms⟩
    exact ⟨⟨terms⟩, h, hterms⟩

/-- A compiled selector accepts the resources for which one of its terms holds. -/
theorem accepts_iff (hr : Resource.decode d = .ok r) (hc : s.compile = .ok c) :
    c.accepts r = true ↔ ∃ t ∈ s.terms, t.Holds r := by
  -- Compiled terms stand beside the terms that they come from.
  obtain ⟨-, hterms⟩ := compile_eq_ok.mp hc
  rw [CompiledSelector.accepts, List.any_eq_true]
  constructor
  · rintro ⟨ct, hmem, haccepts⟩
    obtain ⟨t, ht, hct⟩ := exists_left_of_forall₂ hterms hmem
    exact ⟨t, ht, (SelectorTerm.accepts_iff hr hct).mp haccepts⟩
  · rintro ⟨t, ht, hholds⟩
    obtain ⟨ct, hmem, hct⟩ := exists_right_of_forall₂ hterms ht
    exact ⟨ct, hmem, (SelectorTerm.accepts_iff hr hct).mpr hholds⟩

/-- A selector has an answer when it has a term and all of its paths read, and the answer is
    whether one of the terms holds. -/
theorem matches_eq_ok (hr : Resource.decode d = .ok r) :
    s.matches r = .ok b ↔
      (s.terms ≠ [] ∧ ∀ t ∈ s.terms, t.Valid) ∧ (b = true ↔ ∃ t ∈ s.terms, t.Holds r) := by
  rw [Selector.matches, test_eq_ok fun c hc => accepts_iff hr hc, exists_compile_eq_ok]

/-! ### Failures -/

/-- A match fails when the selector does not compile. -/
theorem matches_eq_error {x : SelectError} : s.matches r = .error x ↔ s.compile = .error x := by
  rw [Selector.matches, bind_eq_error]
  constructor
  · rintro (h | ⟨c, -, h⟩)
    · exact h
    · cases h
  · exact .inl

/-- A selector without any term has no answer, and neither has one with a term that does not
    compile: the fault is that of the first such term. -/
inductive Fault (s : Selector) : SelectError → Prop
  | empty (h : s.terms = []) : Fault s .emptySelector
  | term {before after : List SelectorTerm} {t : SelectorTerm} {x : SelectError}
      (hterms : s.terms = before ++ t :: after) (hbefore : ∀ t' ∈ before, t'.Valid)
      (h : t.Fault x) : Fault s x

/-- A selector is refused iff it has no terms, or with the fault of its first term that has one. -/
theorem compile_eq_error {x : SelectError} : s.compile = .error x ↔ s.Fault x := by
  by_cases hterms : s.terms = []
  · rw [compile, hterms]
    constructor
    · intro h
      obtain rfl := Except.error.inj h
      exact .empty hterms
    · intro h
      cases h with
      | empty => rfl
      | term hsplit => simp [hterms] at hsplit
  · -- With terms, compiling is going through them until one is refused.
    have hcompile : s.compile = .error x ↔ s.terms.mapM SelectorTerm.compile = .error x := by
      rw [compile_eq_of_ne_nil hterms, bind_eq_error_of_ok]
      exact fun _ => ⟨_, rfl⟩
    simp only [hcompile, mapM_eq_error, SelectorTerm.exists_compile_eq_ok,
      SelectorTerm.compile_eq_error]
    constructor
    · rintro ⟨before, t, after, hsplit, hbefore, h⟩
      exact .term hsplit hbefore h
    · intro h
      cases h with
      | empty hnil => exact absurd hnil hterms
      | term hsplit hbefore h => exact ⟨_, _, _, hsplit, hbefore, h⟩

/-- A selector fails for want of a term, or for a field path that does not read. -/
theorem cause_of_matches_eq_error {x : SelectError} (h : s.matches r = .error x) :
    s.terms = [] ∧ x = .emptySelector ∨
      ∃ t ∈ s.terms, ∃ path expected fault, t.fields.get? path = some expected ∧
        FieldPath.parse path = .error fault ∧ x = .field path fault := by
  cases compile_eq_error.mp (matches_eq_error.mp h) with
  | empty hterms => exact .inl ⟨hterms, rfl⟩
  | term hsplit _ h => exact .inr ⟨_, by simp [hsplit], h.exists_get?⟩

/-- A match fails iff there are no terms or some field path does not read, for any resource. -/
theorem exists_matches_eq_error :
    (∃ x, s.matches r = .error x) ↔
      s.terms = [] ∨ ∃ t ∈ s.terms, ∃ path expected fault,
        t.fields.get? path = some expected ∧ FieldPath.parse path = .error fault := by
  constructor
  · rintro ⟨x, h⟩
    rcases cause_of_matches_eq_error h with ⟨hterms, -⟩ | ⟨t, ht, path, expected, fault, hcause⟩
    · exact .inl hterms
    · exact .inr ⟨t, ht, path, expected, fault, hcause.1, hcause.2.1⟩
  · intro hcause
    cases hc : s.compile with
    | error x => exact ⟨x, matches_eq_error.mpr hc⟩
    | ok c =>
      -- A selector that compiles has terms, and all of their paths read.
      obtain ⟨hterms, hvalid⟩ := exists_compile_eq_ok.mp ⟨c, hc⟩
      rcases hcause with hnil | ⟨t, ht, path, expected, fault, hget, hfault⟩
      · exact absurd hnil hterms
      · obtain ⟨p, hp⟩ := hvalid t ht path expected hget
        rw [hp] at hfault
        cases hfault

/-! ### Alternatives of two selectors -/

/-- A selector with the terms of two is answered by one after the other. -/
theorem matches_append (hs : s.terms ≠ []) (hs' : s'.terms ≠ []) (r : Resource) :
    (Selector.mk (s.terms ++ s'.terms)).matches r = do
      return (← s.matches r) || (← s'.matches r) := by
  have happend : (Selector.mk (s.terms ++ s'.terms)).terms ≠ [] :=
    fun h => hs (List.append_eq_nil_iff.mp h).1
  simp only [Selector.matches, compile_eq_of_ne_nil happend, compile_eq_of_ne_nil hs,
    compile_eq_of_ne_nil hs', List.mapM_append]
  -- The first term that does not compile is the same one on both sides.
  cases s.terms.mapM SelectorTerm.compile with
  | error x => rfl
  | ok terms =>
    cases s'.terms.mapM SelectorTerm.compile with
    | error x => rfl
    | ok terms' => exact congrArg Except.ok List.any_append

/-! ### The meaning of a selector -/

/-- Over a resource that was read, a selector fails exactly when it has no term or when some
    field path of some term does not read.  It then fails over every resource, and in the same
    way.  Otherwise the answer is whether some term holds.  The terms of two selectors are
    alternatives, and the demands of two terms that do not contradict each other add up. -/
theorem matches_semantics (hr : Resource.decode d = .ok r) (s : Selector) :
    ((∃ x, s.matches r = .error x) ↔
        s.terms = [] ∨ ∃ t ∈ s.terms, ∃ path expected fault,
          t.fields.get? path = some expected ∧ FieldPath.parse path = .error fault) ∧
      (∀ x, s.matches r = .error x → (∀ r', s.matches r' = .error x) ∧
        (s.terms = [] ∧ x = .emptySelector ∨
          ∃ t ∈ s.terms, ∃ path expected fault, t.fields.get? path = some expected ∧
            FieldPath.parse path = .error fault ∧ x = .field path fault)) ∧
      (∀ b, s.matches r = .ok b → (b = true ↔ ∃ t ∈ s.terms, t.Holds r)) ∧
      (∀ s' : Selector, s.terms ≠ [] → s'.terms ≠ [] →
        (Selector.mk (s.terms ++ s'.terms)).matches r = do
          return (← s.matches r) || (← s'.matches r)) ∧
      ∀ t u : SelectorTerm, t.Compatible u → ∀ b,
        (t.both u).matches r = .ok b ↔
          ∃ b₁ b₂, t.matches r = .ok b₁ ∧ u.matches r = .ok b₂ ∧ (b₁ && b₂) = b := by
  refine ⟨exists_matches_eq_error, fun x h => ⟨fun r' => ?_, cause_of_matches_eq_error h⟩,
    fun b h => ((matches_eq_ok hr).mp h).2, fun s' hs hs' => matches_append hs hs' r,
    fun t u h b => SelectorTerm.matches_both hr h⟩
  rw [matches_eq_error] at h ⊢
  exact h

end Selector

namespace Deployments

/-- A deployment with a label and a number of replicas. -/
def document : Document :=
  .obj [("apiVersion", .str "apps/v1"), ("kind", .str "Deployment"),
    ("metadata", .obj [("labels", .obj [("app", .str "web")]), ("name", .str "web")]),
    ("spec", .obj [("replicas", .nat 3)])]

/-- The deployment as it is read. -/
def deployment : Resource :=
  ⟨"apps/v1", "Deployment",
    { Metadata.empty with
      labels := some (Table.empty.insert "app" "web")
      name := some "web" },
    [("spec", .obj [("replicas", .nat 3)])]⟩

/-- Asks for three replicas, whose number is compared as a text. -/
def sized : SelectorTerm := SelectorTerm.empty.withField "spec.replicas" "3"

/-- Asks for a label. -/
def labelled : SelectorTerm := SelectorTerm.empty.withLabel "app" "web"

/-- Asks for a field by a path that does not read. -/
def broken : SelectorTerm := SelectorTerm.empty.withField "spec..x" "1"

theorem compatible : sized.Compatible labelled := by
  constructor
  · intro k x y _ hy
    cases hy
  · intro k x y hx _
    cases hx
  · intro k x y hx _
    cases hx

end Deployments

open Deployments in
/-- Two demands that a deployment meets, and a selector that fails for the second term. -/
theorem Selector.matches_semantics_deployment :
    Resource.decode document = .ok deployment ∧
      (∃ x, (Selector.mk [labelled, broken]).matches deployment = .error x) ∧
      sized.Compatible labelled ∧ (sized.both labelled).matches deployment = .ok true := by
  have hr : Resource.decode document = .ok deployment := rfl
  obtain ⟨herror, -, -, -, hboth⟩ := Selector.matches_semantics hr ⟨[labelled, broken]⟩
  have hpath : FieldPath.parse "spec..x" = .error (.invalid "spec..x" .emptySegment) := by
    decide +kernel
  refine ⟨hr, herror.mpr (.inr ⟨broken, by simp, "spec..x", "1", _, rfl, hpath⟩), compatible, ?_⟩
  have hsized : sized.matches deployment = .ok true := by decide +kernel
  have hlabelled : labelled.matches deployment = .ok true := by decide +kernel
  exact (hboth sized labelled compatible true).mpr ⟨true, true, hsized, hlabelled, rfl⟩

end Reconciler
