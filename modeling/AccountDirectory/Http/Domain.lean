import AccountDirectory.Http.Domain.Label

/-!
# Domain names

`Domain.ascii?` brings a domain name into the form in which it is sent and shown: mapped, and each
label in letters of ASCII. Names with labels that break the rules have no such form.
-/

namespace AccountDirectory.Http.Domain

/-- A character that no name may hold. -/
def isForbidden (c : Char) : Bool :=
  c.toNat ≤ 0x20 || c.toNat == 0x7F || "#/:<>?@[\\]^|%".toList.contains c

/-- The form of a name in letters of ASCII. -/
def ascii? (name : List Char) : Option (List Char) := do
  let mapped ← mapped? name
  let labels ← (Text.pieces '.' mapped).mapM Label.ofChars?
  let ascii := (List.intersperse ['.'] (labels.map (·.ascii))).flatten
  let isFit := !(labels.any fun l ↦ hasRight l.letters) || labels.all fun l ↦ showsOneWay l.letters
  if ascii.isEmpty || ascii.any isForbidden || !isFit then none else some ascii

end AccountDirectory.Http.Domain
