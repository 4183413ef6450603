/-!
# Blank characters, trimming and words

What counts as blank is the Unicode property `White_Space`. Every check on caller text (identifiers,
search terms, settings, scope strings) trims and splits by this one property.

## What trimming keeps

* `trim` drops blanks at the ends and nothing else; a trimmed text has no blank at either end.
* `words` cuts at runs of blanks and never yields an empty word.
-/

namespace AccountDirectory.Text

/-- The characters of the Unicode property `White_Space`. -/
def isBlank (c : Char) : Bool :=
  let n := c.toNat
  (0x9 ≤ n && n ≤ 0xD) || n == 0x20 || n == 0x85 || n == 0xA0 || n == 0x1680 ||
    (0x2000 ≤ n && n ≤ 0x200A) || n == 0x2028 || n == 0x2029 || n == 0x202F || n == 0x205F ||
    n == 0x3000

/-! ### Trimming -/

/-- Drops the blanks at the start. -/
def trimStart (cs : List Char) : List Char := cs.dropWhile isBlank

/-- Drops the blanks at the end. -/
def trimEnd (cs : List Char) : List Char := (cs.reverse.dropWhile isBlank).reverse

/-- Drops the blanks at both ends. -/
def trimBoth (cs : List Char) : List Char := trimEnd (trimStart cs)

/-- The text without the blanks at its ends. -/
def trim (s : String) : String := String.ofList (trimBoth s.toList)

/-- A text is blank when it is empty or holds blanks only. -/
def isBlankText (s : String) : Bool := s.toList.all isBlank

/-! ### Words -/

/-- The word that the text begins with (empty when it begins with a blank or ends at once), and the
words after it. -/
def leadingWord : List Char → List Char × List (List Char)
  | [] => ([], [])
  | c :: rest =>
    let (word, later) := leadingWord rest
    if isBlank c then ([], if word.isEmpty then later else word :: later)
    else (c :: word, later)

/-- The maximal runs of characters that are not blank, in order. -/
def words (cs : List Char) : List (List Char) :=
  let (word, later) := leadingWord cs
  if word.isEmpty then later else word :: later

/-- The pieces between the separators; a text without the separator is its one piece. -/
def pieces (separator : Char) : List Char → List (List Char)
  | [] => [[]]
  | c :: rest =>
    if c = separator then [] :: pieces separator rest
    else
      match pieces separator rest with
      | [] => [[c]]
      | piece :: later => (c :: piece) :: later

/-! ### Letters of ASCII -/

/-- The text with the capital letters of ASCII made small, all else kept. -/
def asciiLower (cs : List Char) : List Char := cs.map Char.toLower

end AccountDirectory.Text
