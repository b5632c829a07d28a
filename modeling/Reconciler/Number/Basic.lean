import Reconciler.Number.Shortest

namespace Reconciler

/-!
# Numbers of a document

A number is an integer of unlimited exactness or a double.  The two are kept
apart: `3` and `3.0` are different values.

* `Number` — the two kinds;
* `Number.same` — equality as values;
* `Number.text` — the written form;
* `NumberToken` — a number as it stands in a document's text, and
  `NumberToken.value?`, the number it denotes.
-/

/-- A number of a document. -/
inductive Number where
  | int (n : Int)
  | float (x : Binary64)
deriving DecidableEq, Repr

namespace Number

/-- Equality of values; an integer and a double never agree. -/
def same : Number → Number → Bool
  | int m, int n => m == n
  | float x, float y => x.same y
  | _, _ => false

/-- The digits of an integer, with a sign if it is negative. -/
def intText (n : Int) : List Char :=
  if n < 0 then '-' :: Nat.toDigits 10 n.natAbs else Nat.toDigits 10 n.natAbs

/-- The written form of a number. -/
def text : Number → List Char
  | int n => intText n
  | float x => x.text

end Number

/-- A number as written: `-` or not, digits, digits after a point, exponent. -/
structure NumberToken where
  negative : Bool
  whole : List Char
  fraction : Option (List Char)
  exponent : Option Int
deriving DecidableEq, Repr

namespace NumberToken

/-- Digits gathered while they fit 64 bits: the value, and how many digits were
    left out after it stopped fitting. -/
def gather (start : Nat) : List Char → Nat × List Char
  | [] => (start, [])
  | c :: cs =>
    let next := start * 10 + (c.toNat - '0'.toNat)
    if next < 0x10000000000000000 then gather next cs else (start, c :: cs)

/-- The number a token denotes.  Without a point and an exponent it is an
    integer if it fits a signed or an unsigned 64-bit word, except that `-0` keeps
    its sign as a double.  `none` when the number is too large for a double. -/
def value? (t : NumberToken) : Option Number :=
  let n := Nat.ofDigitChars 10 t.whole 0
  match t.fraction, t.exponent with
  | none, none =>
    if !t.negative && n < 0x10000000000000000 then some (.int n)
    else if t.negative && n != 0 && n ≤ 0x8000000000000000 then some (.int (-n))
    else
      let (digits, dropped) := gather 0 t.whole
      (Binary64.ofDecimal? t.negative digits dropped.length).map .float
  | _, _ =>
    let (whole, dropped) := gather 0 t.whole
    let fraction := t.fraction.getD []
    let (digits, ignored) := gather whole fraction
    let point : Int := dropped.length - (fraction.length - ignored.length)
    (Binary64.ofDecimal? t.negative digits (point + t.exponent.getD 0)).map .float

end NumberToken

end Reconciler
