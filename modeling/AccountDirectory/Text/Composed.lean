import AccountDirectory.Text.Composed.Table
import AccountDirectory.Text.Ranges

/-!
# The composed form of a text

The same letter can be written with a mark of its own or as one character. `composed` brings a text
into the form where marks are composed with their letters (the normal form C of Unicode): letters
are taken apart, the marks behind each letter are put in the order of their combining classes, and
then each letter takes up the marks that it can be composed with.

A mark is out of reach of its letter when another mark with the same or a greater class stands
between them.
-/

namespace AccountDirectory.Text.Composed

/-! ### Marks -/

/-- The combining class of a character; letters have class zero. -/
def combiningClass (c : Char) : Nat :=
  match inRows? classRows c.toNat with
  | some (_, k) => k
  | none => 0

/-- Puts a mark before the first one that does not go before it. -/
def insertMark (c : Char) : List Char → List Char
  | [] => [c]
  | d :: rest =>
    if combiningClass d ≠ 0 ∧ combiningClass d < combiningClass c then d :: insertMark c rest
    else c :: d :: rest

/-- The text with the marks behind each letter in the order of their classes. -/
def inOrder : List Char → List Char
  | [] => []
  | c :: rest =>
    if combiningClass c = 0 then c :: inOrder rest else insertMark c (inOrder rest)

/-! ### Syllables of Hangul -/

/-- The letters of a syllable: a leading consonant, a vowel, and perhaps a trailing consonant. -/
def ofSyllable? (n : Nat) : Option (List Nat) :=
  if 0xAC00 ≤ n ∧ n < 0xD7A4 then
    let i := n - 0xAC00
    let letters := [0x1100 + i / 588, 0x1161 + i % 588 / 28]
    some (if i % 28 = 0 then letters else letters ++ [0x11A7 + i % 28])
  else none

/-- The syllable that two letters make, or a syllable without a trailing consonant and one. -/
def toSyllable? (a b : Nat) : Option Nat :=
  if 0x1100 ≤ a ∧ a < 0x1113 ∧ 0x1161 ≤ b ∧ b < 0x1176 then
    some (0xAC00 + ((a - 0x1100) * 21 + (b - 0x1161)) * 28)
  else if 0xAC00 ≤ a ∧ a < 0xD7A4 ∧ (a - 0xAC00) % 28 = 0 ∧ 0x11A8 ≤ b ∧ b < 0x11C3 then
    some (a + (b - 0x11A7))
  else none

/-! ### Letters with marks -/

/-- The letter that a letter and a mark compose. -/
def compose? (a b : Char) : Option Char :=
  match toSyllable? a.toNat b.toNat, pairs.find? fun (x, y, _) ↦ x = a.toNat ∧ y = b.toNat with
  | some n, _ => some (Char.ofNat n)
  | none, some (_, _, n) => some (Char.ofNat n)
  | none, none => none

/-- A character taken apart, where letters are composed at most `depth` times over. -/
def apart (depth : Nat) (c : Char) : List Char :=
  match depth, ofSyllable? c.toNat, pairs.find? fun (_, _, n) ↦ n = c.toNat with
  | _, some letters, _ => letters.map Char.ofNat
  | depth + 1, none, some (a, b, _) => apart depth (Char.ofNat a) ++ [Char.ofNat b]
  | _, none, _ => [c]

/-- Composes a letter with what follows it; `marks` are the marks behind it that stay, last first. -/
def composeFrom (letter : Char) (marks : List Char) : List Char → List Char
  | [] => letter :: marks.reverse
  | c :: rest =>
    let isReached := marks.head?.all fun m ↦ combiningClass m < combiningClass c
    match if isReached then compose? letter c else none with
    | some letter => composeFrom letter marks rest
    | none =>
      if combiningClass c = 0 then letter :: marks.reverse ++ composeFrom c [] rest
      else composeFrom letter (c :: marks) rest

/-- Composes the letters of a text that is taken apart and in order. -/
def recompose : List Char → List Char
  | [] => []
  | c :: rest => if combiningClass c = 0 then composeFrom c [] rest else c :: recompose rest

/-- The composed form of a text. Characters before U+0300 are not composed with one another. -/
def composed (cs : List Char) : List Char :=
  if cs.all fun c ↦ c.toNat < 0x300 then cs else recompose (inOrder (cs.flatMap (apart 3)))

end AccountDirectory.Text.Composed
