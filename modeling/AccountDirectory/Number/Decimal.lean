import AccountDirectory.Number.Digits
import AccountDirectory.Number.Double

/-!
# Decimal fractions in texts

A `Decimal` is what a text spells that looks like a number: a sign, digits before or after a point
and an exponent, where one digit is enough and the point may stand at either end.
-/

namespace AccountDirectory

/-- A decimal fraction: its digits stand for `digits * 10 ^ exponent`. -/
structure Decimal where
  negative : Bool
  digits : List Char
  exponent : Int

namespace Decimal

/-- The exponent that a text spells, from its letter on; zero for no text at all. -/
def exponent? : List Char → Option Int
  | [] => some 0
  | e :: rest =>
    if e ≠ 'e' ∧ e ≠ 'E' then none
    else
      let (negative, digits) :=
        match rest with
        | '-' :: digits => (true, digits)
        | '+' :: digits => (false, digits)
        | digits => (false, digits)
      if digits.isEmpty || !(digits.all Char.isDigit) then none
      else
        let n : Int := Digits.decimal digits
        some (if negative then -n else n)

/-- The decimal fraction that a text spells. -/
def ofChars? (cs : List Char) : Option Decimal := do
  let (negative, cs) :=
    match cs with
    | '-' :: rest => (true, rest)
    | '+' :: rest => (false, rest)
    | rest => (false, rest)
  let whole := cs.takeWhile Char.isDigit
  let (fraction, rest) :=
    match cs.dropWhile Char.isDigit with
    | '.' :: rest => (rest.takeWhile Char.isDigit, rest.dropWhile Char.isDigit)
    | rest => ([], rest)
  if whole.isEmpty && fraction.isEmpty then none
  else do
    let e ← exponent? rest
    some ⟨negative, whole ++ fraction, e - fraction.length⟩

/-- The double that is closest to the number is finite. Numbers below `10 ^ 308` and from `10 ^ 309`
on are told by the place of their first digit alone. -/
def isFinite (d : Decimal) : Bool :=
  let digits := d.digits.dropWhile (· == '0')
  let top : Int := digits.length + d.exponent
  if digits.isEmpty || top ≤ 308 then true
  else if 309 < top then false
  else
    let n := Digits.decimal digits
    let (num, den) :=
      if 0 ≤ d.exponent then (n * Nat.pow 10 d.exponent.toNat, 1)
      else (n, Nat.pow 10 (-d.exponent).toNat)
    (Double.nearest? d.negative num den).isSome

end Decimal

end AccountDirectory
