import Reconciler.Number.Binary64

namespace Reconciler

/-!
# Shortest decimals

The decimal that stands for a double is the one with the fewest digits among
those that read back to it, and of these the nearest.

* `Decimal` — `digits * 10 ^ exponent`;
* `Binary64.readsBack` — the decimals that round to a double;
* `Binary64.shortest` — the decimal chosen;
* `Decimal.layout` — its text: a point always, an exponent when the number is
  very large or very small.
-/

/-- The number `digits * 10 ^ exponent`. -/
structure Decimal where
  digits : Nat
  exponent : Int
deriving DecidableEq, Repr

/-- Compares `a * 10 ^ i` with `n * 2 ^ j`, exactly. -/
def compareScaled (a : Nat) (i : Int) (n : Nat) (j : Int) : Ordering :=
  compare (a * Nat.pow 10 i.toNat * Nat.pow 2 (-j).toNat)
    (n * Nat.pow 2 j.toNat * Nat.pow 10 (-i).toNat)

namespace Binary64

/-- Whether `d` lies among the reals that round to `x`: from halfway to the
    neighbour below to halfway to the neighbour above, the ends included exactly
    when the significand is even. -/
def Magnitude.readsBack (x : Magnitude) (d : Decimal) : Bool :=
  let lower := if x.narrowBelow then 4 * x.m - 1 else 4 * x.m - 2
  let upper := 4 * x.m + 2
  let closed := x.m % 2 == 0
  let atLower := compareScaled d.digits d.exponent lower (x.q - 2)
  let atUpper := compareScaled d.digits d.exponent upper (x.q - 2)
  (atLower == .gt || (closed && atLower == .eq)) && (atUpper == .lt || (closed && atUpper == .eq))

/-- The value rounded down to a multiple of `10 ^ e`, in units of `10 ^ e`. -/
def Magnitude.floorAt (x : Magnitude) (e : Int) : Nat :=
  (x.m * Nat.pow 2 x.q.toNat * Nat.pow 10 (-e).toNat) /
    (Nat.pow 2 (-x.q).toNat * Nat.pow 10 e.toNat)

/-- The decimal of the grid `10 ^ e` that reads back to `x`: one of the two
    neighbours of `x` on the grid, the nearer one if both do, the even one if
    they are equally near. -/
def Magnitude.onGrid? (x : Magnitude) (e : Int) : Option Decimal :=
  let below : Decimal := ⟨x.floorAt e, e⟩
  let above : Decimal := ⟨x.floorAt e + 1, e⟩
  match x.readsBack below, x.readsBack above with
  | true, true =>
    match compareScaled (2 * below.digits + 1) e (2 * x.m) x.q with
    | .gt => some below
    | .lt => some above
    | .eq => some (if below.digits % 2 == 0 then below else above)
  | true, false => some below
  | false, true => some above
  | false, false => none

/-- The number of digits before the decimal point: the least `k` with
    `x < 10 ^ k`, for a value that is not zero. -/
def Magnitude.scale (x : Magnitude) : Int :=
  -- `guess` undershoots by at most two: 30103 / 100000 is close to log 2 / log 10
  let guess := ((x.m.log2 : Int) + x.q) * 30103 / 100000
  let steps := (List.range 4).find? fun (i : Nat) =>
    compareScaled 1 (guess + i) x.m x.q == .gt
  guess + (steps.getD 0 : Nat)

/-- The shortest decimal that reads back to the finite double `x`, its sign
    aside.  Seventeen digits always suffice. -/
def shortest (x : Binary64) : Decimal :=
  let v := x.magnitude
  if v.m == 0 then ⟨0, 0⟩
  else
    match (List.range 17).findSome? fun n => v.onGrid? (v.scale - (n + 1 : Nat)) with
    | some d => d
    | none => ⟨v.m * Nat.pow 2 v.q.toNat * Nat.pow 5 (-v.q).toNat, -((-v.q).toNat : Int)⟩

end Binary64

/-! ### The text of a decimal -/

/-- Drops the trailing zeros of the digits, `fuel` of them at most. -/
def Decimal.strip (d : Decimal) : (fuel : Nat) → Decimal
  | 0 => d
  | fuel + 1 =>
    if d.digits != 0 && d.digits % 10 == 0 then
      Decimal.strip ⟨d.digits / 10, d.exponent + 1⟩ fuel
    else d

/-- The leading digit, at `10 ^ e`, is followed by a plain layout for these `e`. -/
def Decimal.isPlain (e : Int) : Bool :=
  -5 ≤ e && e ≤ 15

/-- A decimal as text: positional with at least one digit on either side of the
    point, or with the point after the leading digit and a signed exponent. -/
def Decimal.layout (d : Decimal) : List Char :=
  let d := d.strip 400
  let digits := Nat.toDigits 10 d.digits
  let lead := d.exponent + digits.length - 1
  if Decimal.isPlain lead then
    if d.exponent ≥ 0 then
      digits ++ List.replicate d.exponent.toNat '0' ++ ['.', '0']
    else if lead ≥ 0 then
      digits.take (lead + 1).toNat ++ '.' :: digits.drop (lead + 1).toNat
    else
      '0' :: '.' :: (List.replicate (-lead - 1).toNat '0' ++ digits)
  else
    let fraction := digits.drop 1
    digits.take 1 ++ (if fraction.isEmpty then [] else '.' :: fraction) ++
      'e' :: (if lead < 0 then '-' else '+') :: Nat.toDigits 10 lead.natAbs

/-- The text of a double: its sign, then its shortest decimal. -/
def Binary64.text (x : Binary64) : List Char :=
  (if x.isNegative then ['-'] else []) ++ x.shortest.layout

end Reconciler
