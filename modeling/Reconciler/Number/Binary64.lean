namespace Reconciler

/-!
# Double-precision numbers

A number with a fraction or an exponent is kept as the 64 bits of the nearest
double, so that equality of values is decidable and the text of a number is a
function of its bits alone.

* `Binary64` — the bits;
* `Binary64.same` — equality of the numbers, in which the two zeros agree;
* `Binary64.Magnitude` — the exact size `m * 2 ^ q` of a finite number;
* `Binary64.ofDecimal?` — the double a decimal stands for.
-/

/-- A finite double-precision number, by its bits. -/
structure Binary64 where
  bits : UInt64
deriving DecidableEq, Repr, Inhabited

namespace Binary64

/-- The sign bit. -/
def isNegative (x : Binary64) : Bool :=
  x.bits >>> 63 == 1

/-- Zero of either sign. -/
def isZero (x : Binary64) : Bool :=
  x.bits &&& 0x7FFFFFFFFFFFFFFF == 0

/-- Equality as numbers: the same bits, or zeros of any sign. -/
def same (x y : Binary64) : Bool :=
  x.bits == y.bits || (x.isZero && y.isZero)

/-- The exact size of a finite double, `m * 2 ^ q`. -/
structure Magnitude where
  m : Nat
  q : Int
  /-- The gap to the next smaller double is half the gap to the next larger. -/
  narrowBelow : Bool
deriving DecidableEq, Repr

/-- The size that the exponent and fraction bits stand for. -/
def magnitude (x : Binary64) : Magnitude :=
  let e := ((x.bits >>> 52) &&& 0x7FF).toNat
  let f := (x.bits &&& 0xFFFFFFFFFFFFF).toNat
  if e == 0 then ⟨f, -1074, false⟩ else ⟨0x10000000000000 + f, (e : Int) - 1075, f == 0 && e > 1⟩

/-- `x * 10 ^ e` in double precision, with one multiplication or division by a
    rounded power of ten.  Exponents beyond the range of doubles first divide by
    `10 ^ 308`, `fuel` times at most; `none` is an overflow. -/
def scale (x : Float) (e : Int) : (fuel : Nat) → Option Float
  | 0 => some 0.0
  | fuel + 1 =>
    if e.natAbs ≤ 308 then
      let power := Float.ofScientific 1 false e.natAbs
      if e ≥ 0 then
        let y := x * power
        if y.isInf then none else some y
      else some (x / power)
    else if x == 0.0 then some x
    else if e ≥ 0 then none
    else scale (x / 1e308) (e + 308) fuel

/-- The double for `digits * 10 ^ exponent`: the digits are rounded first, then
    the scaled product.  `none` when the number is too large. -/
def ofDecimal? (negative : Bool) (digits : Nat) (exponent : Int) : Option Binary64 :=
  (scale (Float.ofScientific digits false 0) exponent 4).map fun x =>
    ⟨(if negative then -x else x).toBits⟩

end Binary64

end Reconciler
