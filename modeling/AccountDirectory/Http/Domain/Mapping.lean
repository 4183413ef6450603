import AccountDirectory.Http.Domain.Mapping.Table
import AccountDirectory.Number.Digits
import AccountDirectory.Text.Blank
import AccountDirectory.Text.Composed
import AccountDirectory.Text.LowerCase

/-!
# The mapping of domain names

Names are mapped before they are compared or looked up, so that capitals, wide forms and other
variants of a letter lead to the same name (`mapped?`). Some characters are dropped on the way, and
some may not stand in a name at all.
-/

namespace AccountDirectory.Http.Domain

/-! ### Characters -/

/-- The character that a hexadecimal number names. -/
def charOf (digits : List Char) : Char := Char.ofNat ((Digits.value? 16 digits).getD 0)

/-- What each character of a row becomes, from the text of the row. -/
def rowTargets (first : Nat) (row : String) : List (Nat × List Char) :=
  let targets := (Text.words row.toList).map fun target ↦ (Text.pieces '+' target).map charOf
  (List.range' first targets.length).zip targets

/-- What each of the characters that are spelled out becomes. -/
def targets : List (Nat × List Char) := spelledOut.flatMap fun (first, row) ↦ rowTargets first row

/-- What a character becomes, if it may stand in a name. -/
def mapChar? (c : Char) : Option (List Char) :=
  let n := c.toNat
  if n < 0x80 then some [c.toLower]
  else
    match Text.inRows? runs n, Text.inRows? gathered n, targets.lookup n with
    | some (first, target), _, _ => some [Char.ofNat (target + (n - first))]
    | none, some (_, target), _ => some [Char.ofNat target]
    | none, none, some target => some target
    | none, none, none =>
      if Text.inRanges ignoredRanges n then some []
      else if Text.inRanges refusedRanges n then none
      else some [Text.LowerCase.lowerChar c]

/-! ### Names -/

/-- The form in which a name is looked up, in composed letters. -/
def mapped? (name : List Char) : Option (List Char) :=
  (name.mapM mapChar?).map fun targets ↦ Text.Composed.composed targets.flatten

/-- The text is in the form in which names are looked up, each character for itself. -/
def isMapped (cs : List Char) : Bool :=
  cs.all (fun c ↦ mapChar? c == some [c]) && Text.Composed.composed cs == cs

end AccountDirectory.Http.Domain
