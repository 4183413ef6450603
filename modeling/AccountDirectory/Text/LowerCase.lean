import AccountDirectory.Text.LowerCase.Table
import AccountDirectory.Text.Ranges

/-!
# Full lower case

Lower-casing a text maps each character to its lower-case partner, with two rules that a map of
single characters cannot give:

* U+0130 (capital I with a dot) becomes two characters, `i` and the combining dot U+0307;
* U+03A3 (capital sigma) becomes the final form U+03C2 at the end of a word, that is when a cased
  character stands before it and none after it, ignorable characters passed over.
-/

namespace AccountDirectory.Text.LowerCase

/-- The character has case. -/
def isCased (c : Char) : Bool := inRanges casedRanges c.toNat

/-- The character is passed over in looking for the end of a word. -/
def isIgnorable (c : Char) : Bool := inRanges ignorableRanges c.toNat

/-- The simple lower-case partner of a character, itself when it has none. -/
def lowerChar (c : Char) : Char :=
  let n := c.toNat
  match lowerRows.find? fun r ↦ r.first ≤ n && n ≤ r.last && (n - r.first) % r.step == 0 with
  | some r => Char.ofNat ((n : Int) + r.shift).toNat
  | none => c

/-- Ignorable characters passed over, a cased one comes next. -/
def casedNext (cs : List Char) : Bool :=
  match cs.dropWhile isIgnorable with
  | c :: _ => isCased c
  | [] => false

/-- The lower case of the characters after those in `before` (last first). -/
def lowerFrom (before : List Char) : List Char → List Char
  | [] => []
  | c :: rest =>
    (if c = '\u03A3' then
      if casedNext before && !casedNext rest then ['\u03C2'] else ['\u03C3']
    else if c = '\u0130' then ['i', '\u0307']
    else [lowerChar c]) ++ lowerFrom (c :: before) rest

/-- The lower case of a text. -/
def lower (cs : List Char) : List Char := lowerFrom [] cs

end AccountDirectory.Text.LowerCase
