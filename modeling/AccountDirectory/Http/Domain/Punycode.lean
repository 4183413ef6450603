import AccountDirectory.Text.Blank

/-!
# Labels in letters of ASCII

The form of a label in which its characters outside ASCII are written with letters and digits
(Punycode). The characters of ASCII come first, then a hyphen if there are any, then for each other
character, in rising order, how many states are passed over to get from the previous one to it.
A state is a character with a place for it in the label so far.

Numbers have 36 digits, the letters and then the decimal digits, least significant digit first. Which
digits end a number changes with its length and with a bias that follows the numbers before
(`adapted`).
-/

namespace AccountDirectory.Http.Domain.Punycode

/-! ### Digits -/

/-- The digit of a value below 36. -/
def digit (n : Nat) : Char := if n < 26 then Char.ofNat (97 + n) else Char.ofNat (22 + n)

/-- The value of a digit. -/
def valueOf? (c : Char) : Option Nat :=
  if c.isLower then some (c.toNat - 97)
  else if c.isUpper then some (c.toNat - 65)
  else if c.isDigit then some (c.toNat - 22)
  else none

/-- The least value of a digit that does not end a number, where `k` is 36 times its position,
counted from one. -/
def threshold (bias k : Nat) : Nat := if k ≤ bias then 1 else min 26 (k - bias)

theorem threshold_pos (bias k : Nat) : 0 < threshold bias k := by
  unfold threshold
  split <;> omega

theorem threshold_le (bias k : Nat) : threshold bias k ≤ 26 := by
  unfold threshold
  split <;> omega

/-- The bias for a scaled difference: `k` grows by 36 with each digit too many. -/
def biasFrom (k delta : Nat) : Nat :=
  if h : 455 < delta then biasFrom (k + 36) (delta / 35) else k + 36 * delta / (delta + 38)
termination_by delta
decreasing_by exact Nat.div_lt_self (by omega) (by decide)

/-- The bias after a number, when the label so far has `length` characters with the new one. -/
def adapted (delta length : Nat) (isFirst : Bool) : Nat :=
  let delta := if isFirst then delta / 700 else delta / 2
  biasFrom 0 (delta + delta / length)

/-! ### Writing -/

/-- The digits of a number. -/
def number (bias k n : Nat) : List Char :=
  let t := threshold bias k
  if n < t then [digit n]
  else digit (t + (n - t) % (36 - t)) :: number bias (k + 36) ((n - t) / (36 - t))
termination_by n
decreasing_by
  have := threshold_pos bias k
  exact Nat.lt_of_le_of_lt (Nat.div_le_self _ _) (by omega)

/-- A label on the way to its written form. -/
structure Writing where
  /-- The states passed over since the latest character. -/
  delta : Nat
  bias : Nat
  /-- How many characters are written. -/
  handled : Nat
  isFirst : Bool := true

/-- Goes through the label once: writes each character with the number `n` and counts the places of
smaller ones. -/
def writePass (n : Nat) (w : Writing) : List Char → Writing × List Char
  | [] => (w, [])
  | c :: rest =>
    if c.toNat < n then writePass n { w with delta := w.delta + 1 } rest
    else if c.toNat = n then
      let bias := adapted w.delta (w.handled + 1) w.isFirst
      let (w', later) := writePass n ⟨0, bias, w.handled + 1, false⟩ rest
      (w', number w.bias 36 w.delta ++ later)
    else writePass n w rest

/-- Writes the characters with these numbers, which rise; `next` is the first number not passed. -/
def writeFrom (label : List Char) (next : Nat) (w : Writing) : List Nat → List Char
  | [] => []
  | n :: later =>
    let w := { w with delta := w.delta + (n - next) * (w.handled + 1) }
    let (w, chars) := writePass n w label
    chars ++ writeFrom label (n + 1) { w with delta := w.delta + 1 } later

/-- Puts a number into a rising list, once. -/
def insertNumber (n : Nat) : List Nat → List Nat
  | [] => [n]
  | m :: rest => if n < m then n :: m :: rest else if n = m then m :: rest
    else m :: insertNumber n rest

/-- The written form of a label. -/
def encode (label : List Char) : List Char :=
  let plain := label.filter (·.toNat < 0x80)
  let others := (label.filter (0x80 ≤ ·.toNat)).foldr (fun c ns ↦ insertNumber c.toNat ns) []
  (if plain.isEmpty then [] else plain ++ ['-']) ++
    writeFrom label 0x80 ⟨0, 72, plain.length, true⟩ others

/-! ### Reading -/

/-- Numbers have at most 32 bits. -/
def numberLimit : Nat := 0x100000000

/-- A label on the way from its written form. -/
structure Reading where
  label : List Char
  /-- The latest character, as a number. -/
  last : Nat := 0x80
  /-- The place behind it. -/
  place : Nat := 0
  bias : Nat := 72
  /-- The number so far, the weight of its next digit, and 36 times the position of that digit. -/
  value : Nat := 0
  weight : Nat := 1
  k : Nat := 36
  isFirst : Bool := true

/-- Takes the character that a complete number leads to. -/
def Reading.take? (r : Reading) : Option Reading :=
  let length := r.label.length + 1
  let state := r.place + r.value
  let n := r.last + state / length
  let place := state % length
  if numberLimit ≤ state ∨ !n.isValidChar then none
  else
    some
      { label := r.label.take place ++ Char.ofNat n :: r.label.drop place
        last := n, place := place + 1, bias := adapted r.value length r.isFirst, isFirst := false }

/-- Reads digits to the end. -/
def readFrom (r : Reading) : List Char → Option (List Char)
  | [] => if r.k = 36 then some r.label else none
  | c :: rest => do
    let n ← valueOf? c
    let r' := { r with value := r.value + n * r.weight }
    let t := threshold r.bias r.k
    if n < t then readFrom (← r'.take?) rest
    else
      let weight := r.weight * (36 - t)
      if numberLimit ≤ weight then none else readFrom { r' with weight, k := r.k + 36 } rest

/-- The label with this written form. -/
def decode? (cs : List Char) : Option (List Char) :=
  let digits := (cs.reverse.takeWhile (· ≠ '-')).reverse
  let before := cs.take (cs.length - digits.length)
  match before with
  | [] => readFrom { label := [] } digits
  | before =>
    let plain := before.dropLast
    if plain.isEmpty || !(plain.all (·.toNat < 0x80)) then none
    else readFrom { label := plain } digits

end AccountDirectory.Http.Domain.Punycode
