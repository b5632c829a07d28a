import Mathlib.Data.List.TakeWhile
import Reconciler.Proofs.Success
import Reconciler.Proofs.Text.Blank
import Reconciler.Timestamp

namespace Reconciler

/-!
# Reading a written timestamp

A timestamp is written to the second, so what is read back is the instant without its
fraction.

* `ofDigitChars_padded`, `readDigits_padded` — written digits are read as their number;
* `readYear_yearText`, `readField_padded` — each field is read up to the mark after it;
* `parse_text` — the whole of a written timestamp.
-/

/-- The bounds on the fields of a day. -/
theorem Date.bounds (d : Date) :
    (-262143 ≤ d.year ∧ d.year ≤ 262142) ∧ (1 ≤ d.month ∧ d.month ≤ 12) ∧
      1 ≤ d.day ∧ d.day ≤ 31 := by
  have h := d.valid
  simp only [isDate, Bool.and_eq_true, decide_eq_true_eq] at h
  obtain ⟨⟨⟨⟨⟨hleast, hmost⟩, hjan⟩, hdec⟩, hfirst⟩, hlast⟩ := h
  have hdays : daysInMonth d.year d.month ≤ 31 := by
    unfold daysInMonth
    split
    · split <;> decide
    all_goals decide
  exact ⟨⟨hleast, hmost⟩, ⟨hjan, hdec⟩, hfirst, hlast.trans hdays⟩

namespace Timestamp

variable {width n : Nat} {mark : Char} {rest : List Char}

/-! ### Digits -/

/-- A number in a field of digits is written in digits. -/
theorem isDigit_of_mem_padded {c : Char} (h : c ∈ padded width n) : c.isDigit = true := by
  rw [padded, List.mem_append, List.mem_replicate] at h
  rcases h with ⟨-, rfl⟩ | h
  · rfl
  · exact Nat.isDigit_of_mem_toDigits (by decide) (by decide) h

/-- Zeros by themselves are zero. -/
theorem ofDigitChars_replicate_zero (k : Nat) :
    Nat.ofDigitChars 10 (List.replicate k '0') 0 = 0 := by
  induction k with
  | zero => rfl
  | succ k ih => rw [List.replicate_succ, Nat.ofDigitChars_cons]; exact ih

/-- The zeros in front of a number do not count. -/
theorem ofDigitChars_padded (width n : Nat) : Nat.ofDigitChars 10 (padded width n) 0 = n := by
  rw [padded, Nat.ofDigitChars_append, ofDigitChars_replicate_zero, Nat.ofDigitChars_ten_toDigits]

/-- A number that fits is as long as its field. -/
theorem length_padded (hn : n < Nat.pow 10 width) (hwidth : 0 < width) :
    (padded width n).length = width := by
  have hlength : (Nat.toDigits 10 n).length ≤ width :=
    (Nat.length_toDigits_le_iff (by decide) hwidth).mpr hn
  rw [padded, List.length_append, List.length_replicate]
  omega

/-- A field is not empty and begins with a digit. -/
theorem padded_eq_cons (width n : Nat) :
    ∃ c cs, padded width n = c :: cs ∧ c.isDigit = true := by
  cases h : padded width n with
  | nil =>
    rw [padded, List.append_eq_nil_iff] at h
    exact absurd h.2 Nat.toDigits_ne_nil
  | cons c cs => exact ⟨c, cs, rfl, isDigit_of_mem_padded (h ▸ List.mem_cons_self)⟩

/-- Digits are read up to the mark after them, if there are no more than `most`. -/
theorem readDigits_padded {most : Nat} (hlength : (padded width n).length ≤ most)
    (hmark : mark.isDigit = false) :
    readDigits most (padded width n ++ mark :: rest) = .ok (n, mark :: rest) := by
  -- The digits end at the mark, or where no more of them are read.
  have hstop : ∀ k, ((mark :: rest).take k).takeWhile Char.isDigit = [] := by
    intro k
    cases k <;> simp [hmark]
  have hdigits : ((padded width n ++ mark :: rest).take most).takeWhile Char.isDigit =
      padded width n := by
    rw [List.take_append, List.take_of_length_le hlength,
      List.takeWhile_append_of_pos fun c => isDigit_of_mem_padded, hstop, List.append_nil]
  have hvalue := ofDigitChars_padded width n
  obtain ⟨c, cs, hpadded, -⟩ := padded_eq_cons width n
  rw [readDigits, hdigits]
  rw [hpadded] at hvalue ⊢
  simp only [hvalue, List.drop_left]

/-! ### Marks -/

/-- Before a field there is nothing to skip. -/
theorem skipBlanks_padded : Text.skipBlanks (padded width n ++ rest) = padded width n ++ rest := by
  obtain ⟨c, cs, hpadded, hdigit⟩ := padded_eq_cons width n
  rw [hpadded, List.cons_append, Text.skipBlanks_cons (Text.isBlank_of_isDigit hdigit)]

/-- A separator is read off when it is there. -/
theorem readSeparator_cons (h : Text.isBlank mark = false) :
    readSeparator mark (mark :: rest) = .ok ((), rest) := by
  rw [readSeparator, Text.skipBlanks_cons h, readMark, if_pos rfl]

/-! ### Fields -/

/-- A field of two digits is read up to the mark after it. -/
theorem readField_padded {least most : Nat} (hleast : least ≤ n) (hmost : n ≤ most)
    (hfits : most < 100) (hmark : mark.isDigit = false) :
    readField least most (padded 2 n ++ mark :: rest) = .ok (n, mark :: rest) := by
  have hlength : (padded 2 n).length ≤ 2 := (length_padded (show n < 100 by omega) (by decide)).le
  rw [readField, skipBlanks_padded, readDigits_padded hlength hmark]
  simp only [bind_eq_ok, Except.ok.injEq, exists_eq_left', hleast, hmost, and_self, if_true,
    pure_eq_ok]

/-- A year is read up to the mark after it, in any number of digits when it has a sign. -/
theorem readYear_yearText {year : Int} (hleast : -2147483648 ≤ year) (hmost : year ≤ 2147483647)
    (hmark : mark.isDigit = false) :
    readYear (yearText year ++ mark :: rest) = .ok (year, mark :: rest) := by
  have hread : ∀ most, (padded 4 year.natAbs).length ≤ most →
      readDigits most (padded 4 year.natAbs ++ mark :: rest) = .ok (year.natAbs, mark :: rest) :=
    fun most hlength => readDigits_padded hlength hmark
  have hsigned := hread (padded 4 year.natAbs ++ mark :: rest).length (by simp)
  have hrange : -2147483648 ≤ year ∧ year ≤ 2147483647 := ⟨hleast, hmost⟩
  rw [readYear, yearText]
  by_cases hplain : 0 ≤ year ∧ year ≤ 9999
  · have hvalue : (year.natAbs : Int) = year := by omega
    have hfour := hread 4 (length_padded (show year.natAbs < 10000 by omega) (by decide)).le
    obtain ⟨c, cs, hpadded, hdigit⟩ := padded_eq_cons 4 year.natAbs
    rw [if_pos hplain, skipBlanks_padded]
    rw [hpadded, List.cons_append] at hfour ⊢
    -- A digit is neither of the signs.
    split
    · next h =>
      rw [(List.cons.inj h).1] at hdigit
      cases hdigit
    · next h =>
      rw [(List.cons.inj h).1] at hdigit
      cases hdigit
    · exact bind_eq_ok.mpr ⟨_, hfour, by simp only [hvalue]; exact if_pos hrange⟩
  · rw [if_neg hplain]
    by_cases hneg : year < 0
    · have hvalue : -(year.natAbs : Int) = year := by omega
      rw [if_pos hneg, List.cons_append, Text.skipBlanks_cons (by decide)]
      exact bind_eq_ok.mpr ⟨_, hsigned, by simp only [hvalue]; exact if_pos hrange⟩
    · have hvalue : (year.natAbs : Int) = year := by omega
      rw [if_neg hneg, List.cons_append, Text.skipBlanks_cons (by decide)]
      exact bind_eq_ok.mpr ⟨_, hsigned, by simp only [hvalue]; exact if_pos hrange⟩

/-! ### The whole text -/

/-- A time of day in UTC is the instant of its own fields. -/
theorem ofLocal_utc (t : Timestamp) :
    ofLocal t.date t.hour t.minute t.second 0 0 = .ok { t with nanosecond := 0 } := by
  have hhour := t.hour.isLt
  have hminute := t.minute.isLt
  -- Without an offset the minutes of the day are those of the clock.
  have hminutes : ((t.hour : Nat) : Int) * 60 + (t.minute : Nat) - 0 =
      ((t.hour * 60 + t.minute : Nat) : Int) := by omega
  have hday : (((t.hour * 60 + t.minute : Nat) : Int) % 1440).toNat = t.hour * 60 + t.minute := by
    omega
  have hhours : ((t.hour : Nat) * 60 + t.minute) / 60 = t.hour := by omega
  have hrest : ((t.hour : Nat) * 60 + t.minute) % 60 = t.minute := by omega
  rw [ofLocal]
  simp only [hminutes, hday, hhours, hrest]
  rw [if_neg (by decide), if_neg (by omega), if_neg (by omega)]
  simp

/-- What is written of an instant is read as the instant to the second. -/
theorem parse_text (t : Timestamp) : parse t.text = .ok { t with nanosecond := 0 } := by
  obtain ⟨⟨hleast, hmost⟩, ⟨hjan, hdec⟩, hfirst, hlast⟩ := t.date.bounds
  have hhour : (t.hour : Nat) ≤ 23 := by omega
  have hminute : (t.minute : Nat) ≤ 59 := by omega
  have hsecond : (t.second : Nat) ≤ 60 := by omega
  have hdate : Date.ofFields? t.date.year t.date.month t.date.day = some t.date :=
    dif_pos t.date.valid
  rw [parse, text, String.toList_ofList]
  simp only [List.append_assoc, List.cons_append]
  -- The fields and the marks between them, in the order of the text.
  refine bind_eq_ok.mpr ⟨_, readYear_yearText (by omega) (by omega) rfl, ?_⟩
  refine bind_eq_ok.mpr ⟨_, readSeparator_cons rfl, ?_⟩
  refine bind_eq_ok.mpr ⟨_, readField_padded hjan hdec (by decide) rfl, ?_⟩
  refine bind_eq_ok.mpr ⟨_, readSeparator_cons rfl, ?_⟩
  refine bind_eq_ok.mpr ⟨_, readField_padded hfirst hlast (by decide) rfl, ?_⟩
  refine bind_eq_ok.mpr ⟨_, rfl, ?_⟩
  refine bind_eq_ok.mpr ⟨_, readField_padded (Nat.zero_le _) hhour (by decide) rfl, ?_⟩
  refine bind_eq_ok.mpr ⟨_, readSeparator_cons rfl, ?_⟩
  refine bind_eq_ok.mpr ⟨_, readField_padded (Nat.zero_le _) hminute (by decide) rfl, ?_⟩
  refine bind_eq_ok.mpr ⟨_, readSeparator_cons rfl, ?_⟩
  refine bind_eq_ok.mpr ⟨_, readField_padded (Nat.zero_le _) hsecond (by decide) rfl, ?_⟩
  refine bind_eq_ok.mpr ⟨_, rfl, ?_⟩
  -- There is no fraction, and the offset is `Z`.
  refine bind_eq_ok.mpr ⟨(0, []), rfl, ?_⟩
  simp only [hdate]
  exact ofLocal_utc t

end Timestamp

end Reconciler
