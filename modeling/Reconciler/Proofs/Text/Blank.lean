import Mathlib.Data.List.TakeWhile
import Reconciler.Text.Blank

namespace Reconciler.Text

/-!
# Words between blanks

Blanks before and after a word do not belong to it.

* `skipBlanks_cons`, `skipBlanks_append` — where no more blanks are skipped;
* `exists_trim`, `trim_word` — trimming takes out what stands between blanks;
* `Spells` — the texts that are a word in capital or small letters, between blanks;
* `SmallWord.spells_iff` — how a text is found to spell a word in small letters.
-/

variable {left right word text rest : List Char} {c : Char}

/-! ### Characters -/

/-- A digit is no blank. -/
theorem isBlank_of_isDigit (h : c.isDigit = true) : isBlank c = false := by
  simp only [Char.isDigit, Bool.and_eq_true, decide_eq_true_eq, ge_iff_le,
    UInt32.le_iff_toNat_le] at h
  have hlow : 48 ≤ c.toNat := h.1
  have hhigh : c.toNat ≤ 57 := h.2
  simp only [isBlank, Bool.or_eq_false_iff, Bool.and_eq_false_iff, decide_eq_false_iff_not,
    beq_eq_false_iff_ne]
  omega

/-- No blank is a capital letter. -/
theorem toLower_of_isBlank (h : isBlank c = true) : c.toLower = c := by
  have hcapital : ¬ (c.val ≥ 'A'.val ∧ c.val ≤ 'Z'.val) := by
    rintro ⟨hfirst, hlast⟩
    have hlow : 65 ≤ c.toNat := UInt32.le_iff_toNat_le.mp hfirst
    have hhigh : c.toNat ≤ 90 := UInt32.le_iff_toNat_le.mp hlast
    simp only [isBlank, Bool.or_eq_true, Bool.and_eq_true, decide_eq_true_eq, beq_iff_eq] at h
    omega
  exact dif_neg hcapital

/-! ### Trimming -/

/-- Nothing is skipped before a character that is not blank. -/
theorem skipBlanks_cons (h : isBlank c = false) : skipBlanks (c :: rest) = c :: rest := by
  rw [skipBlanks, List.dropWhile_cons, h]
  rfl

/-- Blanks are skipped up to a word. -/
theorem skipBlanks_append (hleft : ∀ b ∈ left, isBlank b = true) (hne : word ≠ [])
    (hword : ∀ c ∈ word, isBlank c = false) :
    skipBlanks (left ++ (word ++ rest)) = word ++ rest := by
  obtain ⟨c, cs, rfl⟩ := List.exists_cons_of_ne_nil hne
  have hstop : skipBlanks (c :: cs ++ rest) = c :: cs ++ rest :=
    skipBlanks_cons (hword c List.mem_cons_self)
  rw [skipBlanks, List.dropWhile_append_of_pos hleft, ← skipBlanks, hstop]

/-- The trimmed text has been taken out from between blanks. -/
theorem exists_trim (text : List Char) :
    ∃ left right, text = left ++ trim text ++ right ∧
      (∀ b ∈ left, isBlank b = true) ∧ (∀ b ∈ right, isBlank b = true) := by
  let blanks := (skipBlanks text).reverse.takeWhile isBlank
  refine ⟨text.takeWhile isBlank, blanks.reverse, ?_, fun b hb => List.mem_takeWhile_imp hb,
    fun b hb => List.mem_takeWhile_imp (List.mem_reverse.mp hb)⟩
  -- The blanks at the end are those at the beginning of the reversed text.
  have hend : trim text ++ blanks.reverse = skipBlanks text := by
    rw [trim, ← List.reverse_append]
    exact (congrArg List.reverse List.takeWhile_append_dropWhile).trans (List.reverse_reverse _)
  calc text = text.takeWhile isBlank ++ skipBlanks text :=
        List.takeWhile_append_dropWhile.symm
    _ = text.takeWhile isBlank ++ trim text ++ blanks.reverse := by
        rw [List.append_assoc, hend]

/-- A word without blanks is what trimming leaves of it between blanks. -/
theorem trim_word (hleft : ∀ b ∈ left, isBlank b = true) (hright : ∀ b ∈ right, isBlank b = true)
    (hne : word ≠ []) (hword : ∀ c ∈ word, isBlank c = false) :
    trim (left ++ word ++ right) = word := by
  have hstart : skipBlanks (left ++ word ++ right) = word ++ right := by
    rw [List.append_assoc]
    exact skipBlanks_append hleft hne hword
  have hend : skipBlanks (right.reverse ++ (word.reverse ++ [])) = word.reverse ++ [] :=
    skipBlanks_append (fun b hb => hright b (List.mem_reverse.mp hb)) (by simpa using hne)
      fun c hc => hword c (List.mem_reverse.mp hc)
  rw [List.append_nil] at hend
  rw [trim, hstart, List.reverse_append, hend, List.reverse_reverse]

/-! ### Words -/

/-- The text is the word in capital or small letters, with blanks before and after it. -/
def Spells (text word : List Char) : Prop :=
  ∃ left letters right, text = left ++ letters ++ right ∧
    (∀ b ∈ left, isBlank b = true) ∧ (∀ b ∈ right, isBlank b = true) ∧
    letters.map Char.toLower = word.map Char.toLower

/-- At least one character, each of them a small letter or a sign, and none a blank. -/
structure SmallWord (word : List Char) : Prop where
  ne_nil : word ≠ []
  toLower : word.map Char.toLower = word
  noBlank : ∀ c ∈ word, isBlank c = false

namespace SmallWord

/-- A word with these three properties is a small one; the last of them is a test. -/
theorem of_all (hne : word ≠ []) (htoLower : word.map Char.toLower = word)
    (hall : (word.all fun c => !isBlank c) = true) : SmallWord word :=
  ⟨hne, htoLower, fun c hc => by simpa using List.all_eq_true.mp hall c hc⟩

/-- A text spells a word in small letters when it has these letters between its blanks. -/
theorem spells_iff (hword : SmallWord word) :
    Spells text word ↔ (trim text).map Char.toLower = word := by
  constructor
  · rintro ⟨left, letters, right, rfl, hleft, hright, hletters⟩
    rw [hword.toLower] at hletters
    -- A blank is its own small letter, so there is none among the letters.
    have hblank : ∀ c ∈ letters, isBlank c = false := by
      intro c hc
      by_contra hnot
      have hmem : c.toLower ∈ word := hletters ▸ List.mem_map_of_mem hc
      rw [toLower_of_isBlank (Bool.not_eq_false _ ▸ hnot)] at hmem
      exact hnot (hword.noBlank c hmem)
    have hne : letters ≠ [] := by
      rintro rfl
      exact hword.ne_nil hletters.symm
    rw [trim_word hleft hright hne hblank, hletters]
  · intro h
    obtain ⟨left, right, htext, hleft, hright⟩ := exists_trim text
    exact ⟨left, trim text, right, htext, hleft, hright, by rw [h, hword.toLower]⟩

/-- A word in small letters spells itself and no other one. -/
theorem spells_iff_eq (htext : SmallWord text) (hword : SmallWord word) :
    Spells text word ↔ text = word := by
  have htrim : trim ([] ++ text ++ []) = text := trim_word nofun nofun htext.ne_nil htext.noBlank
  rw [List.nil_append, List.append_nil] at htrim
  rw [hword.spells_iff, htrim, htext.toLower]

end SmallWord

end Reconciler.Text
