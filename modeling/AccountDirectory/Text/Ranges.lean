/-!
# Ranges of characters

A property of characters is given by the ranges of the characters that have it.
-/

namespace AccountDirectory.Text

/-- The number lies in one of the ranges, whose first and last numbers belong to them. -/
def inRanges (ranges : List (Nat × Nat)) (n : Nat) : Bool :=
  ranges.any fun (first, last) ↦ first ≤ n && n ≤ last

/-- What the first of the ranges that hold a number says of it. -/
def inRows? {α : Type} (rows : List (Nat × Nat × α)) (n : Nat) : Option (Nat × α) :=
  (rows.find? fun (first, last, _) ↦ first ≤ n && n ≤ last).map fun (first, _, a) ↦ (first, a)

end AccountDirectory.Text
