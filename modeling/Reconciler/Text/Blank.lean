namespace Reconciler.Text

/-!
# Blank space

The blank characters are those with the Unicode property `White_Space`; the
property is stable, so the table is complete.

* `isBlank` — the property itself;
* `skipBlanks` — a text without its leading blanks;
* `trim` — a text without the blanks at either end;
* `allBlank` — nothing but blanks, the empty text included.
-/

/-- Unicode `White_Space`. -/
def isBlank (c : Char) : Bool :=
  let n := c.toNat
  (0x9 ≤ n && n ≤ 0xD) || n == 0x20 || n == 0x85 || n == 0xA0 || n == 0x1680 ||
    (0x2000 ≤ n && n ≤ 0x200A) || n == 0x2028 || n == 0x2029 || n == 0x202F ||
    n == 0x205F || n == 0x3000

/-- The characters from the first one that is not blank. -/
def skipBlanks (cs : List Char) : List Char :=
  cs.dropWhile isBlank

/-- The characters between the first and the last one that is not blank. -/
def trim (cs : List Char) : List Char :=
  (skipBlanks (skipBlanks cs).reverse).reverse

/-- A text in which every character is blank. -/
def allBlank (s : String) : Bool :=
  s.toList.all isBlank

example : (List.range 0x100).countP (fun n => isBlank (Char.ofNat n)) = 8 := by
  decide +kernel

example : isBlank '\u3000' = true ∧ isBlank '\u200b' = false ∧ isBlank '\ufeff' = false := by
  decide

end Reconciler.Text
