import AccountDirectory.Number.Digits
import AccountDirectory.Number.Double.Shortest

/-!
# Numbers of JSON

A `Literal` is a number as it is written. Its value (`Number.ofLiteral?`) is

* an integer, when it has neither fraction nor exponent and lies in the signed or the unsigned
  64-bit range (`-0` does not count as an integer);
* otherwise a double. The digits are first gathered into a 64-bit significand, digits that no longer
  fit only move the decimal exponent, and then the significand is rounded to a double and multiplied
  or divided by a power of ten. Beyond the greatest double there is no value.

## The written form

An integer is written with its digits alone. A double is written with its shortest digits,
positionally from `1e-5` up to below `1e16`, with `.0` kept on a whole number, and otherwise with an
exponent that carries its sign.
-/

namespace AccountDirectory.Json

/-- A number as it is written. -/
structure Literal where
  negative : Bool
  /-- The digits before the point. -/
  whole : List Char
  /-- The digits after the point, none when there is no point. -/
  fraction : List Char
  /-- The sign of the exponent (`true` for a minus) and its digits. -/
  exponent : Option (Bool × List Char)
  deriving DecidableEq

/-- A number: an integer of 64 bits, signed or unsigned, or a double. -/
inductive Number
  | integer (n : Int) (bounds : -0x8000000000000000 ≤ n ∧ n < 0x10000000000000000)
  | double (x : Double)
  deriving DecidableEq

/-! ### Reading a literal -/

namespace Literal

/-- The exponent part of a number, up to the end. -/
def exponentOf? : List Char → Option (Option (Bool × List Char))
  | [] => some none
  | e :: rest =>
    if e = 'e' ∨ e = 'E' then
      let (negative, digits) :=
        match rest with
        | '-' :: digits => (true, digits)
        | '+' :: digits => (false, digits)
        | digits => (false, digits)
      if !digits.isEmpty && digits.all Char.isDigit then some (some (negative, digits)) else none
    else none

/-- The part of a number after its whole digits. -/
def tailOf? (negative : Bool) (whole : List Char) : List Char → Option Literal
  | '.' :: rest =>
    let fraction := rest.takeWhile Char.isDigit
    if fraction.isEmpty then none
    else (exponentOf? (rest.dropWhile Char.isDigit)).map fun e ↦ ⟨negative, whole, fraction, e⟩
  | rest => (exponentOf? rest).map fun e ↦ ⟨negative, whole, [], e⟩

/-- Reads a number that fills the text: no sign `+`, no leading zeros, digits on both sides of a
point. -/
def ofChars? (cs : List Char) : Option Literal :=
  let (negative, cs) :=
    match cs with
    | '-' :: rest => (true, rest)
    | rest => (false, rest)
  let whole := cs.takeWhile Char.isDigit
  if whole.isEmpty || (whole.head? == some '0' && 1 < whole.length) then none
  else tailOf? negative whole (cs.dropWhile Char.isDigit)

end Literal

/-! ### The value of a literal -/

/-- Appends digits to a significand while it fits into 64 bits; the digits from the first one
that no longer fits are left over. -/
def gather (significand : Nat) : List Char → Nat × List Char
  | [] => (significand, [])
  | c :: rest =>
    let next := significand * 10 + Digits.digitValue c
    if next < 0x10000000000000000 then gather next rest else (significand, c :: rest)

/-- Divides by `10 ^ k`, in steps of at most 308. -/
def divideByTens (x : Double) (k : Nat) : Option Double :=
  if k ≤ 308 then x.overPowerOfTen? k
  else if x.isZero then some x
  else (x.overPowerOfTen? 308).bind (divideByTens · (k - 308))
termination_by k

/-- The double with this significand and decimal exponent. -/
def doubleOf? (negative : Bool) (significand : Nat) (exponent : Int) : Option Double := do
  let x ← Double.ofNat? negative significand
  if exponent < 0 then divideByTens x exponent.natAbs
  else if exponent ≤ 308 then x.timesPowerOfTen? exponent.natAbs
  else if x.isZero then some x
  else none

/-- The decimal exponent that is written in a number, for a significand that is zero or not:
beyond the 32-bit range a negative exponent (or a zero significand) makes the number zero, given as
`some none`, and a positive one has no value. -/
def writtenExponent? (zero : Bool) : Option (Bool × List Char) → Option (Option Int)
  | none => some (some 0)
  | some (negative, digits) =>
    let e := Digits.decimal digits
    if e < 0x80000000 then some (some (if negative then -(e : Int) else e))
    else if negative || zero then some none
    else none

/-- The double that a literal stands for. -/
def Literal.toDouble? (lit : Literal) : Option Double := do
  let (significand, wholeLeft) := gather 0 lit.whole
  let (significand, fractionLeft) := gather significand lit.fraction
  let shift : Int :=
    (wholeLeft.length : Int) - ((lit.fraction.length - fractionLeft.length : Nat) : Int)
  match ← writtenExponent? (significand == 0) lit.exponent with
  | none => some (Double.zero lit.negative)
  | some e => doubleOf? lit.negative significand (shift + e)

/-- The integer that a literal stands for, when it is one of 64 bits. -/
def Literal.toInt? (lit : Literal) : Option Int :=
  if lit.fraction.isEmpty && lit.exponent.isNone then
    let n : Int := Digits.decimal lit.whole
    if lit.negative then if 0 < n ∧ n ≤ 0x8000000000000000 then some (-n) else none
    else if n < 0x10000000000000000 then some n
    else none
  else none

/-- The value of a literal. -/
def Number.ofLiteral? (lit : Literal) : Option Number :=
  match lit.toInt? with
  | some n =>
    if bounds : -0x8000000000000000 ≤ n ∧ n < 0x10000000000000000 then some (.integer n bounds) else none
  | none => lit.toDouble?.map .double

/-! ### Writing -/

/-- The decimal digits of a natural. -/
def naturalText (n : Nat) : List Char := Nat.toDigits 10 n

/-- The written form of an integer. -/
def integerText (n : Int) : List Char :=
  if n < 0 then '-' :: naturalText n.natAbs else naturalText n.natAbs

/-- The written form of `digits * 10 ^ exponent`, where the first digit stands at `10 ^ top`. -/
def decimalText (digits : List Char) (exponent top : Int) : List Char :=
  if -5 ≤ top ∧ top < 16 then
    if 0 ≤ exponent then digits ++ List.replicate exponent.toNat '0' ++ ['.', '0']
    else if 0 ≤ top then
      digits.take (top.toNat + 1) ++ '.' :: digits.drop (top.toNat + 1)
    else '0' :: '.' :: (List.replicate (-top - 1).toNat '0' ++ digits)
  else
    let mantissa :=
      match digits with
      | [] => []
      | [d] => [d]
      | d :: rest => d :: '.' :: rest
    mantissa ++ 'e' :: (if top < 0 then '-' else '+') :: naturalText top.natAbs

/-- The written form of a double. -/
def doubleText (x : Double) : List Char :=
  let d := x.shortest
  let digits := naturalText d.digits
  let text := decimalText digits d.exponent (d.exponent + digits.length - 1)
  if x.negative then '-' :: text else text

/-- The written form of a number. -/
def Number.text : Number → List Char
  | .integer n _ => integerText n
  | .double x => doubleText x

end AccountDirectory.Json
