import AccountDirectory.Http.Domain.Label.Table
import AccountDirectory.Http.Domain.Mapping
import AccountDirectory.Http.Domain.Punycode

/-!
# The labels of domain names

A label may be written in its own letters or, after `xn--`, in letters of ASCII. Both forms have to
follow the same rules: a label does not begin with a mark, and the two joining controls stand only
where they change how the letters beside them are joined.

## Directions

When a label of a name has letters that are written from right to left, every label of the name has
to show in one way only (`showsOneWay`): it begins with a letter, has characters of one direction
apart from numbers and neutral characters, and does not end in a neutral one.
-/

namespace AccountDirectory.Http.Domain

/-! ### Marks and joiners -/

/-- The character is a nonspacing mark. -/
def isNonspacing (c : Char) : Bool := 0x300 ≤ c.toNat && Text.inRanges nonspacingRanges c.toNat

/-- The character is a mark. -/
def isMark (c : Char) : Bool :=
  isNonspacing c || (0x300 ≤ c.toNat && Text.inRanges spacingRanges c.toNat)

/-- The sign that takes the vowel from a consonant, in the scripts of India. -/
def isVirama (c : Char) : Bool := Text.Composed.combiningClass c == 9

/-- Letters join across the character. -/
def isTransparent (c : Char) : Bool := isNonspacing c || c.toNat == 0x1E94B

/-- The letter joins to the next one. -/
def joinsNext (c : Char) : Bool :=
  Text.inRanges joiningBothRanges c.toNat || Text.inRanges joiningNextRanges c.toNat

/-- The letter joins to the previous one. -/
def joinsPrevious (c : Char) : Bool :=
  Text.inRanges joiningBothRanges c.toNat || Text.inRanges joiningPreviousRanges c.toNat

/-- A control may stand behind the characters `before`, last first, and before the characters `rest`:
a joiner behind a virama, and a separator there or between letters that would join. -/
def joinerFits (before : List Char) (c : Char) (rest : List Char) : Bool :=
  if c = '\u200D' then before.head?.any isVirama
  else if c = '\u200C' then
    before.head?.any isVirama ||
      ((before.dropWhile isTransparent).head?.any joinsNext &&
        (rest.dropWhile isTransparent).head?.any joinsPrevious)
  else true

/-- All joining controls stand where they may, behind the characters `before`, last first. -/
def joinersFit (before : List Char) : List Char → Bool
  | [] => true
  | c :: rest => joinerFits before c rest && joinersFit (c :: before) rest

/-! ### Directions -/

/-- The direction of a character. -/
inductive Direction
  | left
  | right
  | arabicNumber
  | europeanNumber
  | neutral
  | mark
  deriving DecidableEq

/-- The nonspacing marks whose direction is that of the letters. -/
def leftMarks : List Nat := [0xCBF, 0xCC6, 0x11A07, 0x11A08, 0x11C3F]

/-- The direction of a character. -/
def Direction.of (c : Char) : Direction :=
  let n := c.toNat
  if isNonspacing c then if leftMarks.contains n then .left else .mark
  else if Text.inRanges rightToLeftRanges n then .right
  else if Text.inRanges arabicNumberRanges n then .arabicNumber
  else if Text.inRanges europeanNumberRanges n then .europeanNumber
  else if Text.inRanges neutralRanges n then .neutral
  else .left

/-- The label has characters that are written from right to left. -/
def hasRight (label : List Char) : Bool :=
  label.any fun c ↦ 0x300 ≤ c.toNat && [.right, .arabicNumber].contains (Direction.of c)

/-- The label shows in one way only. -/
def showsOneWay (label : List Char) : Bool :=
  let directions := label.map Direction.of
  let last := directions.reverse.find? (· ≠ .mark)
  match directions.head? with
  | none => true
  | some .left =>
    !(directions.contains .right || directions.contains .arabicNumber) &&
      (last == some .left || last == some .europeanNumber)
  | some .right =>
    !directions.contains .left && last != some .neutral &&
      !(directions.contains .arabicNumber && directions.contains .europeanNumber)
  | some _ => false

/-! ### Labels -/

/-- A label in its own letters and in letters of ASCII. -/
structure Label where
  letters : List Char
  ascii : List Char

namespace Label

/-- What labels in letters of ASCII begin with. -/
def asciiMark : List Char := "xn--".toList

/-- The most characters of a label outside ASCII. -/
def lengthLimit : Nat := 1000

/-- The most characters behind the mark of a label in letters of ASCII. -/
def asciiLimit : Nat := 2000

/-- The characters are all of ASCII. -/
def isAscii (cs : List Char) : Bool := cs.all (·.toNat < 0x80)

/-- The letters of a label that is written behind the mark in letters of ASCII. -/
def lettersOf? (cs : List Char) : Option (List Char) :=
  if asciiLimit < cs.length then none
  else (Punycode.decode? cs).filter fun letters ↦ !(isAscii letters) && isMapped letters

/-- The label that a part of a mapped name spells. -/
def ofChars? (cs : List Char) : Option Label := do
  let label : Label ←
    if asciiMark.isPrefixOf cs then (lettersOf? (cs.drop asciiMark.length)).map (⟨·, cs⟩)
    else if isAscii cs then some ⟨cs, cs⟩
    else if lengthLimit < cs.length then none
    else some ⟨cs, asciiMark ++ Punycode.encode cs⟩
  if label.letters.head?.any isMark || !(joinersFit [] label.letters) then none else some label

end Label

end AccountDirectory.Http.Domain
