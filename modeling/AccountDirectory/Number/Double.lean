/-!
# Finite doubles

A finite double is a sign, a significand of at most 53 bits and an exponent: its magnitude is
`significand * 2 ^ exponent`. One number has one form: the significand fills its 53 bits unless the
exponent is the least one, so equality of the parts is equality of the numbers (zero keeps its
sign).

`nearest?` rounds a quotient of naturals to the closest double, a half to the even significand, and
refuses what lies beyond the greatest double. Every operation here is one exact quotient, rounded
once.
-/

namespace AccountDirectory

/-- A finite double. -/
structure Double where
  negative : Bool
  significand : Nat
  exponent : Int
  canonical : significand < 0x20000000000000 ∧ -1074 ≤ exponent ∧ exponent ≤ 971 ∧
    (0x10000000000000 ≤ significand ∨ exponent = -1074)
  deriving DecidableEq

namespace Double

/-- The zero of a sign. -/
def zero (negative : Bool) : Double := ⟨negative, 0, -1074, by decide⟩

/-- The number is a zero of either sign. -/
def isZero (x : Double) : Bool := x.significand == 0

/-- The same magnitude with this sign. -/
def withSign (negative : Bool) (x : Double) : Double :=
  ⟨negative, x.significand, x.exponent, x.canonical⟩

/-! ### Rounding -/

/-- The natural closest to `num / den`, a half to the even one. -/
def roundHalfEven (num den : Nat) : Nat :=
  let q := num / den
  let r := num % den
  if 2 * r < den then q
  else if den < 2 * r then q + 1
  else if q % 2 = 0 then q
  else q + 1

/-- The quotient `num / den` divided by `2 ^ exponent`, as a numerator and a denominator. -/
def scaled (num den : Nat) (exponent : Int) : Nat × Nat :=
  if 0 ≤ exponent then (num, den <<< exponent.toNat) else (num <<< (-exponent).toNat, den)

/-- The greatest `e` with `2 ^ e ≤ num / den`, for positive `num` and `den`. -/
def floorLog2 (num den : Nat) : Int :=
  let guess : Int := (num.log2 : Int) - (den.log2 : Int)
  let (a, b) := scaled num den guess
  if b ≤ a then guess else guess - 1

/-- The double closest to `num / den` (with `0 < den`), a half to the even significand; `none` when
that is beyond the greatest double. -/
def nearest? (negative : Bool) (num den : Nat) : Option Double :=
  if num = 0 then some (zero negative)
  else
    let exponent := max (-1074) (floorLog2 num den - 52)
    let (a, b) := scaled num den exponent
    let significand := roundHalfEven a b
    -- rounding up may reach the next power of two
    let (significand, exponent) :=
      if significand = 0x20000000000000 then (0x10000000000000, exponent + 1) else (significand, exponent)
    if h : significand < 0x20000000000000 ∧ -1074 ≤ exponent ∧ exponent ≤ 971 ∧
        (0x10000000000000 ≤ significand ∨ exponent = -1074) then
      some ⟨negative, significand, exponent, h⟩
    else none

/-- The magnitude as a numerator and a denominator. -/
def magnitude (x : Double) : Nat × Nat :=
  if 0 ≤ x.exponent then (x.significand <<< x.exponent.toNat, 1)
  else (x.significand, 1 <<< (-x.exponent).toNat)

/-- The double closest to a natural. -/
def ofNat? (negative : Bool) (n : Nat) : Option Double := nearest? negative n 1

/-- The magnitude rounded to a natural, a half away from zero. -/
def roundedMagnitude (x : Double) : Nat :=
  let (a, b) := x.magnitude
  (2 * a + b) / (2 * b)

/-! ### Powers of ten -/

/-- The magnitude of the double closest to `10 ^ k`. -/
def powerOfTen (k : Nat) : Nat × Nat :=
  match nearest? false (Nat.pow 10 k) 1 with
  | some x => x.magnitude
  | none => (Nat.pow 10 k, 1)

/-- The product with the double closest to `10 ^ k`, rounded. -/
def timesPowerOfTen? (x : Double) (k : Nat) : Option Double :=
  let (a, b) := x.magnitude
  let (p, q) := powerOfTen k
  nearest? x.negative (a * p) (b * q)

/-- The quotient by the double closest to `10 ^ k`, rounded. -/
def overPowerOfTen? (x : Double) (k : Nat) : Option Double :=
  let (a, b) := x.magnitude
  let (p, q) := powerOfTen k
  nearest? x.negative (a * q) (b * p)

end Double

end AccountDirectory
