/-!
# Digits

The naturals that digits spell, in any base up to sixteen. Only the digits and letters of ASCII
count as digits.
-/

namespace AccountDirectory.Digits

/-- The value of a decimal digit. -/
def digitValue (c : Char) : Nat := c.toNat - 48

/-- The natural that decimal digits spell. -/
def decimal (digits : List Char) : Nat := digits.foldl (fun n c ↦ n * 10 + digitValue c) 0

/-- The value of a hexadecimal digit of either case. -/
def hexValue? (c : Char) : Option Nat :=
  let n := c.toNat
  if 48 ≤ n ∧ n ≤ 57 then some (n - 48)
  else if 65 ≤ n ∧ n ≤ 70 then some (n - 55)
  else if 97 ≤ n ∧ n ≤ 102 then some (n - 87)
  else none

/-- The natural that digits of a base spell; no digits at all spell zero. -/
def value? (base : Nat) (cs : List Char) : Option Nat :=
  cs.foldlM (fun n c ↦
    (hexValue? c).bind fun d ↦ if d < base then some (n * base + d) else none) 0

end AccountDirectory.Digits
