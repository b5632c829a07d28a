import Reconciler.Proofs.Text.Blank
import Reconciler.Proofs.Wire.Types
import Reconciler.Settings

namespace Reconciler

/-!
# What settings are read from

Settings come from texts that anybody may have written.  A choice of categories is a list of names
between commas, in which only the names matter that are known: neither their order nor their number
nor what else stands there.  A limit is a number that is at least one, and a separator a text that
is not empty; any other text counts for nothing.

* `Category.ofName?_eq_some` — the names of the categories, in lists and as they are written;
* `Categories.contains_addTokens`, `Categories.contains_ofText` — what a list of names chooses;
* `Categories.ofText_entries` — the list as a choice, and the choice as a list;
* `Settings.positive?_eq_some` — the numbers that are limits;
* `Settings.one_le_maxReplicas_ofLookup`, `Settings.separator_ofLookup_ne` — what holds of every
  environment.
-/

/-! ### Lists of categories -/

namespace Category

/-- The names in a list are the ones that are written. -/
theorem ofName?_eq_some {name : String} {c : Category} :
    ofName? name = some c ↔ c.name = name := by
  constructor
  · intro h
    unfold ofName? at h
    split at h
    case h_7 => cases h
    all_goals
      obtain rfl := Option.some.inj h
      rfl
  · rintro rfl
    cases c <;> rfl

theorem name_injective {c c' : Category} (h : c.name = c'.name) : c = c' :=
  Option.some.inj ((ofName?_eq_some.mpr h).symm.trans (ofName?_eq_some.mpr rfl))

/-- The names are words of small letters. -/
theorem smallWord_name (c : Category) : Text.SmallWord c.name.toList := by
  cases c <;> exact .of_all (by decide) (by decide) (by decide)

/-- No category is called `all`, which asks for all of them. -/
theorem name_ne_all (c : Category) : c.name ≠ "all" := by
  cases c <;> decide

/-- Names do not fall apart at commas. -/
theorem comma_not_mem_name (c : Category) : ',' ∉ c.name.toList := by
  cases c <;> decide

end Category

theorem smallWord_all : Text.SmallWord "all".toList :=
  .of_all (by decide) (by decide) (by decide)

namespace Categories

variable {c : Category}

/-- What stands between the commas of a list. -/
def entries (s : String) : List (List Char) :=
  s.toList.splitOn ','

/-- The entry is the name of the category, or the word for all of them. -/
def Asks (entry : List Char) (c : Category) : Prop :=
  Text.Spells entry c.name.toList ∨ Text.Spells entry "all".toList

/-- A word is among the entries that are read just when one of them spells it. -/
theorem mem_tokens {s word : String} (hword : Text.SmallWord word.toList) :
    word ∈ tokens s ↔ ∃ entry ∈ entries s, Text.Spells entry word.toList := by
  have hread : ∀ t : List Char, String.ofList (t.map Char.toLower) = word ↔
      t.map Char.toLower = word.toList := fun t =>
    ⟨fun h => h ▸ String.toList_ofList.symm, fun h => h ▸ String.ofList_toList⟩
  simp only [tokens, List.mem_map, List.mem_filter, hword.spells_iff, entries]
  constructor
  · rintro ⟨t, ⟨⟨entry, hentry, rfl⟩, -⟩, ht⟩
    exact ⟨entry, hentry, (hread _).mp ht⟩
  · rintro ⟨entry, hentry, ht⟩
    refine ⟨Text.trim entry, ⟨⟨entry, hentry, rfl⟩, ?_⟩, (hread _).mpr ht⟩
    -- An entry without a letter spells no word.
    have hne : Text.trim entry ≠ [] := by
      intro hnil
      rw [hnil] at ht
      exact hword.ne_nil ht.symm
    simpa using hne

/-- Reading on adds what is named, and everything once all is named. -/
theorem contains_addTokens {s : Categories} {ts : List String} :
    (addTokens s ts).contains c = true ↔
      s.contains c = true ∨ "all" ∈ ts ∨ c.name ∈ ts := by
  induction ts generalizing s with
  | nil => simp [addTokens]
  | cons t ts ih =>
    rw [addTokens, List.mem_cons, List.mem_cons]
    -- After `all` nothing more is looked at, and nothing more could be added.
    by_cases hall : t = "all"
    · rw [if_pos hall]
      exact iff_of_true rfl (.inr (.inl (.inl hall.symm)))
    · rw [if_neg hall]
      have hother : "all" ≠ t := Ne.symm hall
      cases hname : Category.ofName? t with
      | some c' =>
        obtain rfl := Category.ofName?_eq_some.mp hname
        have hsame : c.name = c'.name ↔ c = c' :=
          ⟨Category.name_injective, congrArg Category.name⟩
        simp only [ih, contains_insert, Bool.or_eq_true, decide_eq_true_eq, hsame, hother,
          false_or]
        tauto
      | none =>
        have hunknown : c.name ≠ t := by
          rintro rfl
          rw [Category.ofName?_eq_some.mpr rfl] at hname
          cases hname
        simp only [ih, hother, hunknown, false_or]

/-- A list chooses the categories that some entry of it asks for. -/
theorem contains_ofText {s : String} :
    (ofText s).contains c = true ↔ ∃ entry ∈ entries s, Asks entry c := by
  have hnone : ¬ none.contains c = true := Bool.false_ne_true
  rw [ofText, contains_addTokens, or_iff_right hnone, mem_tokens smallWord_all,
    mem_tokens c.smallWord_name, or_comm, ← exists_or]
  exact exists_congr fun entry => and_or_left.symm

/-- A list of names chooses the categories with these names. -/
theorem ofText_intercalate (s : Categories) :
    ofText (String.intercalate "," (s.toList.map Category.name)) = s := by
  by_cases hnames : s.toList = []
  · rw [hnames, ← ofList_toList s, hnames]
    rfl
  · -- The names are cut apart again where they were joined.
    have hentries : entries (String.intercalate "," (s.toList.map Category.name)) =
        s.toList.map (·.name.toList) := by
      rw [entries, String.toList_intercalate, List.map_map]
      refine List.splitOn_intercalate ',' ?_ (by simpa using hnames)
      simp only [List.forall_mem_map]
      exact fun c _ => c.comma_not_mem_name
    refine ext_contains fun c => ?_
    -- Each of them asks for its own category alone.
    have hasks : ∀ c' : Category, Asks c'.name.toList c ↔ c' = c := by
      intro c'
      rw [Asks, c'.smallWord_name.spells_iff_eq c.smallWord_name,
        c'.smallWord_name.spells_iff_eq smallWord_all, String.toList_inj, String.toList_inj]
      simp only [c'.name_ne_all, or_false]
      exact ⟨Category.name_injective, congrArg Category.name⟩
    rw [Bool.eq_iff_iff, contains_ofText, hentries, ← mem_toList]
    simp [hasks]

/-- In a list between commas every known name counts, and nothing else.  So lists with the same
    known entries are the same choice, in whatever order, however often and among whatever other
    entries these stand; and the written names of a choice, between commas, are a list of it. -/
theorem ofText_entries :
    (∀ (s : String) (c : Category),
      (ofText s).contains c = true ↔ ∃ entry ∈ entries s, Asks entry c) ∧
    (∀ s s' : String,
      (∀ entry c, Asks entry c → (entry ∈ entries s ↔ entry ∈ entries s')) →
        ofText s = ofText s') ∧
    ∀ chosen : Categories, ∃ names : List String,
      chosen.encode = .arr (names.map .str) ∧ ofText (String.intercalate "," names) = chosen := by
  refine ⟨fun s c => contains_ofText, fun s s' h => ext_contains fun c => ?_, fun chosen => ?_⟩
  · rw [Bool.eq_iff_iff, contains_ofText, contains_ofText]
    exact exists_congr fun entry => and_congr_left fun hasks => h entry c hasks
  · refine ⟨chosen.toList.map Category.name, ?_, ofText_intercalate chosen⟩
    rw [encode, List.map_map]
    rfl

namespace MixedList

/-- Two names in capital and small letters, one of them twice, and an unknown one. -/
def full : String := "Create,bogus,\u3000skip ,Create"

/-- The same names the other way round. -/
def short : String := "\u3000skip ,Create"

theorem entries_full : entries full =
    ["Create".toList, "bogus".toList, "\u3000skip ".toList, "Create".toList] := by
  decide +kernel

theorem entries_short : entries short = ["\u3000skip ".toList, "Create".toList] := by
  decide +kernel

/-- An unknown word asks for nothing. -/
theorem not_asks_bogus (c : Category) : ¬ Asks "bogus".toList c := by
  rw [Asks, c.smallWord_name.spells_iff, smallWord_all.spells_iff]
  cases c <;> decide +kernel

end MixedList

open MixedList in
/-- Both lists choose creations and what is skipped, which is also written so. -/
theorem ofText_entries_mixed :
    (∀ entry c, Asks entry c → (entry ∈ entries full ↔ entry ∈ entries short)) ∧
      ofText full = ofText short ∧ (ofText full).contains .skip = true ∧
      (ofText full).encode = .arr [.str "create", .str "skip"] := by
  obtain ⟨hchosen, hsame, -⟩ := ofText_entries
  have hknown : ∀ entry c, Asks entry c → (entry ∈ entries full ↔ entry ∈ entries short) := by
    intro entry c hasks
    have hne : entry ≠ "bogus".toList := by
      rintro rfl
      exact not_asks_bogus c hasks
    rw [entries_full, entries_short]
    simp only [List.mem_cons, hne, false_or]
    tauto
  refine ⟨hknown, hsame full short hknown, (hchosen full .skip).mpr ?_, by rfl⟩
  refine ⟨"\u3000skip ".toList, ?_, .inl ?_⟩
  · rw [entries_full]
    simp
  · rw [Category.smallWord_name .skip |>.spells_iff]
    decide +kernel

end Categories

/-! ### Limits -/

namespace Settings

variable {cs digits : List Char} {n : UInt32}

/-- The text without the plus before it, if there is one. -/
def withoutPlus : List Char → List Char
  | '+' :: rest => rest
  | cs => cs

/-- What is left are the digits iff there were these digits, or a plus and these digits. -/
theorem withoutPlus_eq_iff (hdigits : ∀ c ∈ digits, c.isDigit = true) :
    withoutPlus cs = digits ↔ cs = digits ∨ cs = '+' :: digits := by
  -- Digits do not begin with a plus, so only one of them can be dropped.
  have hplus : ∀ rest, '+' :: rest ≠ digits := by
    rintro rest rfl
    exact absurd (hdigits '+' List.mem_cons_self) (by decide)
  unfold withoutPlus
  split
  · next rest => simp [hplus]
  · next hnot =>
    have hne : cs ≠ '+' :: digits := hnot digits
    simp [hne]

/-- A text is a limit when it is a number in digits, perhaps with a plus before it, that is at
    least one and fits a word. -/
theorem positive?_eq_some :
    positive? cs = some n ↔ 1 ≤ n.toNat ∧ ∃ digits, (cs = digits ∨ cs = '+' :: digits) ∧
      digits ≠ [] ∧ (∀ c ∈ digits, c.isDigit = true) ∧
      Nat.ofDigitChars 10 digits 0 = n.toNat := by
  -- The reader, with the text that is left of a plus.
  have hdefinition : positive? cs =
      if !(withoutPlus cs).isEmpty && (withoutPlus cs).all Char.isDigit &&
          0 < Nat.ofDigitChars 10 (withoutPlus cs) 0 &&
          Nat.ofDigitChars 10 (withoutPlus cs) 0 < 0x100000000 then
        some (UInt32.ofNat (Nat.ofDigitChars 10 (withoutPlus cs) 0))
      else none := rfl
  rw [hdefinition, Option.ite_none_right_eq_some, Option.some.injEq]
  simp only [Bool.and_eq_true, Bool.not_eq_true', List.isEmpty_eq_false_iff, List.all_eq_true,
    decide_eq_true_eq]
  constructor
  · rintro ⟨⟨⟨⟨hne, hall⟩, hpos⟩, hfits⟩, rfl⟩
    rw [UInt32.toNat_ofNat_of_lt' hfits]
    exact ⟨hpos, _, (withoutPlus_eq_iff hall).mp rfl, hne, hall, rfl⟩
  · rintro ⟨hpos, digits, hcs, hne, hall, hvalue⟩
    rw [(withoutPlus_eq_iff hall).mpr hcs, hvalue]
    exact ⟨⟨⟨⟨hne, hall⟩, hpos⟩, n.toNat_lt⟩, UInt32.ofNat_toNat⟩

/-- A limit that is missing or not valid leaves the default. -/
theorem maxReplicas_ofLookup (lookup : String → Option String) :
    (ofLookup lookup).maxReplicas =
      ((lookup "CONVERGE_MAX_REPLICAS").bind fun s => positive? (Text.trim s.toList)).getD
        default.maxReplicas := by
  rw [ofLookup]
  cases lookup "CONVERGE_MAX_REPLICAS" <;> rfl

/-- A separator that is missing or empty leaves the default. -/
theorem separator_ofLookup (lookup : String → Option String) :
    (ofLookup lookup).separator =
      ((lookup "CONVERGE_NAME_SEPARATOR").filter fun s => !s.isEmpty).getD default.separator := by
  rw [ofLookup]
  cases lookup "CONVERGE_NAME_SEPARATOR" with
  | none => rfl
  | some s => cases hs : s.isEmpty <;> simp [Option.filter, hs]

/-- Whatever the environment says, at least one replica is allowed. -/
theorem one_le_maxReplicas_ofLookup (lookup : String → Option String) :
    1 ≤ (ofLookup lookup).maxReplicas.toNat := by
  rw [maxReplicas_ofLookup]
  cases hn : (lookup "CONVERGE_MAX_REPLICAS").bind fun s => positive? (Text.trim s.toList) with
  | none => decide
  | some n =>
    obtain ⟨s, -, hs⟩ := Option.bind_eq_some_iff.mp hn
    exact (positive?_eq_some.mp hs).1

/-- Whatever the environment says, something stands before an index. -/
theorem separator_ofLookup_ne (lookup : String → Option String) :
    (ofLookup lookup).separator ≠ "" := by
  rw [separator_ofLookup]
  cases hs : (lookup "CONVERGE_NAME_SEPARATOR").filter fun s => !s.isEmpty with
  | none => decide
  | some s => simpa using (Option.filter_eq_some_iff.mp hs).2

end Settings

end Reconciler
