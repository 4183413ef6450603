import AccountDirectory.Text.Utf8

/-!
# The characters of YAML text

YAML text has no control characters other than tab and the line breaks. A carriage return, alone or
before a line feed, and the control character U+0085 break a line just as a line feed does, so they
are made line feeds before anything else is read (`characters?`). The separators U+2028 and U+2029
also break lines, but stay what they are.

A `Cursor` is a place in the text, with its line and its column.
-/

namespace AccountDirectory.Yaml

/-- The mark that may stand before a text or a line, where it takes a column of its own. -/
def byteOrderMark : Char := '\ufeff'

/-- The characters that YAML text may hold. -/
def isAllowed (c : Char) : Bool :=
  let n := c.toNat
  n == 0x9 || n == 0xA || n == 0xD || (0x20 ≤ n && n ≤ 0x7E) || n == 0x85 ||
    (0xA0 ≤ n && n ≤ 0xFFFD) || 0x10000 ≤ n

/-- Blanks inside a line. -/
def isBlank (c : Char) : Bool := c == ' ' || c == '\t'

/-- Line breaks, once they have been unified. -/
def isBreak (c : Char) : Bool := c == '\n' || c == '\u2028' || c == '\u2029'

/-- The characters that names of anchors, directives and tag handles consist of. -/
def isNameChar (c : Char) : Bool := c.isAlphanum || c == '-' || c == '_'

/-- The text begins with a blank or a break, or it is at its end. -/
def blankAhead : List Char → Bool
  | [] => true
  | c :: _ => isBlank c || isBreak c

/-- The text begins with three times this character and then a blank, a break or the end. -/
def threeTimes (c : Char) (cs : List Char) : Bool :=
  cs.take 3 == [c, c, c] && blankAhead (cs.drop 3)

/-- At this column a mark stands that begins or ends a document. -/
def documentMarkAhead (column : Nat) (cs : List Char) : Bool :=
  column == 0 && (threeTimes '-' cs || threeTimes '.' cs)

/-- Makes line feeds of carriage returns and U+0085. -/
def unifyBreaks : List Char → List Char
  | [] => []
  | '\r' :: '\n' :: rest => '\n' :: unifyBreaks rest
  | c :: rest => (if c = '\r' ∨ c = '\u0085' then '\n' else c) :: unifyBreaks rest

/-- The characters of a YAML text, or nothing when one of them may not stand there. -/
def characters? (s : String) : Option (List Char) :=
  if s.toList.all isAllowed then some (unifyBreaks s.toList) else none

/-! ### Places -/

/-- A place in a text. -/
structure Cursor where
  /-- The text from here on. -/
  rest : List Char
  line : Nat
  column : Nat

namespace Cursor

/-- The place behind this many characters of the same line. -/
def skip (place : Cursor) (n : Nat) : Cursor := ⟨place.rest.drop n, place.line, place.column + n⟩

/-- The place behind the characters of the line that pass a test. -/
def skipWhile (place : Cursor) (p : Char → Bool) : Cursor :=
  let passing := place.rest.takeWhile p
  place.skip passing.length

/-- Behind blanks and a comment, if the line ends there: the end of that line. -/
def restOfLine? (place : Cursor) : Option Cursor :=
  let place := place.skipWhile isBlank
  let place := if place.rest.head? == some '#' then place.skipWhile (!isBreak ·) else place
  match place.rest with
  | [] => some place
  | c :: rest => if isBreak c then some ⟨rest, place.line + 1, 0⟩ else none

end Cursor

end AccountDirectory.Yaml
