import AccountDirectory.Number.Double

/-!
# The shortest decimal of a double

Every decimal strictly between a double's two rounding limits reads back as that double, and the
limits themselves do when the significand is even. `shortest` gives the fewest digits that lie in
this range, and of those the decimal closest to the double.

The search is by digit count: on the grid of `n`-digit decimals only the two neighbours of the
double need testing, because a point of the grid that lies in the range has one of them between
itself and the double.
-/

namespace AccountDirectory.Double

/-- A decimal `digits * 10 ^ exponent`. -/
structure Decimal where
  digits : Nat
  exponent : Int
  deriving DecidableEq

/-- The rounding range of a positive double, in quarters of the unit `2 ^ (exponent - 2)`: the
lower limit, the double, the upper limit. Below a power of two the doubles lie twice as close. -/
def limits (x : Double) : Nat × Nat × Nat :=
  let m := x.significand
  let below := if m = 0x10000000000000 ∧ -1074 < x.exponent then 1 else 2
  (4 * m - below, 4 * m, 4 * m + 2)

/-- The quotient of `n * 2 ^ (exponent - 2)` by `10 ^ grid`, as a numerator and a denominator. -/
def onGrid (x : Double) (grid : Int) (n : Nat) : Nat × Nat :=
  let e := x.exponent - 2
  (n <<< e.toNat * Nat.pow 10 (-grid).toNat, 1 <<< (-e).toNat * Nat.pow 10 grid.toNat)

/-- The greatest `k` with `10 ^ k ≤ x`, for a positive double. -/
def floorLog10 (x : Double) : Int :=
  let (a, b) := x.magnitude
  if b ≤ a then ((Nat.toDigits 10 (a / b)).length : Int) - 1
  else
    -- the least `k` with `b ≤ a * 10 ^ k`
    let k := (Nat.toDigits 10 (b / a)).length
    if b ≤ a * Nat.pow 10 (k - 1) then -((k - 1 : Nat) : Int) else -(k : Int)

/-- The best decimal on the grid of multiples of `10 ^ grid` that reads back as the double. -/
def onGrid? (x : Double) (grid : Int) : Option Decimal :=
  let (low, mid, high) := limits x
  let (a, b) := onGrid x grid mid
  let inRange (d : Nat) : Bool :=
    let (lowA, lowB) := onGrid x grid low
    let (highA, highB) := onGrid x grid high
    if x.significand % 2 = 0 then lowA ≤ d * lowB && d * highB ≤ highA
    else lowA < d * lowB && d * highB < highA
  let d := a / b
  match inRange d, inRange (d + 1) with
  | true, true =>
    let r := a % b
    if 2 * r < b ∨ (2 * r = b ∧ d % 2 = 0) then some ⟨d, grid⟩ else some ⟨d + 1, grid⟩
  | true, false => some ⟨d, grid⟩
  | false, true => some ⟨d + 1, grid⟩
  | false, false => none

/-- The same decimal without final zeros in its digits, of which at most `fuel` are dropped. -/
def Decimal.dropZeros (d : Decimal) : Nat → Decimal
  | 0 => d
  | fuel + 1 =>
    if d.digits % 10 = 0 ∧ d.digits ≠ 0 then Decimal.dropZeros ⟨d.digits / 10, d.exponent + 1⟩ fuel
    else d

/-- The decimal of fewest digits that reads back as the double, without final zeros in its digits;
17 digits are always enough. -/
def shortest (x : Double) : Decimal :=
  if x.isZero then ⟨0, 0⟩
  else
    let top := floorLog10 x
    let found := (List.range 17).findSome? fun (n : Nat) ↦ onGrid? x (top - (n : Int))
    (found.getD ⟨0, 0⟩).dropZeros 17

end AccountDirectory.Double
