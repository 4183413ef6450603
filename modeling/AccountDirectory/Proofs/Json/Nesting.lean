import AccountDirectory.Json.Value
import Mathlib.Order.MinMax

/-!
# Values without a limit on nesting

A reader of values has a budget for nested containers. `ofDocument?_eq` says that the budget is a
limit on the depth of a document and decides nothing else: below its depth no budget is enough, and
from there on every budget gives the same value. So a document has one value (`Document.value?`),
and a reader either gives it or refuses the document for its depth.
-/

namespace AccountDirectory.Json

namespace Document

mutual

/-- How many containers are nested in one another. -/
def depth : Document → Nat
  | .list items => depthOfItems items + 1
  | .object members => depthOfMembers members + 1
  | _ => 0

/-- The greatest depth of an item. -/
def depthOfItems : List Document → Nat
  | [] => 0
  | d :: rest => max (depth d) (depthOfItems rest)

/-- The greatest depth of a member's value. -/
def depthOfMembers : List (Option String × Document) → Nat
  | [] => 0
  | (_, d) :: rest => max (depth d) (depthOfMembers rest)

end

/-- The value that a document means, however deep it is nested. -/
def value? (d : Document) : Option Value := Value.ofDocument? d.depth d

end Document

namespace Value

open Document (depth depthOfItems depthOfMembers)

mutual

/-- A budget below the depth is not enough. -/
theorem ofDocument?_eq_none :
    ∀ {budget : Nat} {d : Document}, budget < d.depth → ofDocument? budget d = none
  | budget, .list items, h => by
    rw [depth] at h
    rw [ofDocument?]
    split
    · rfl
    · rw [ofItems?_eq_none (by omega), Option.map_none]
  | budget, .object members, h => by
    rw [depth] at h
    rw [ofDocument?]
    split
    · rfl
    · rw [ofMembers?_eq_none (by omega), Option.map_none]
  | _, .null, h | _, .bool _, h | _, .number _, h | _, .text _, h => absurd h (Nat.not_lt_zero _)

theorem ofItems?_eq_none :
    ∀ {budget : Nat} {items : List Document}, budget < depthOfItems items →
      ofItems? budget items = none
  | _, [], h => absurd h (Nat.not_lt_zero _)
  | budget, d :: rest, h => by
    rw [ofItems?]
    obtain hd | hrest := lt_max_iff.1 h
    · rw [ofDocument?_eq_none hd]
      rfl
    · rw [ofItems?_eq_none hrest]
      cases ofDocument? budget d <;> rfl

theorem ofMembers?_eq_none :
    ∀ {budget : Nat} {members : List (Option String × Document)},
      budget < depthOfMembers members → ofMembers? budget members = none
  | _, [], h => absurd h (Nat.not_lt_zero _)
  | budget, (key, d) :: rest, h => by
    rw [ofMembers?]
    obtain hd | hrest := lt_max_iff.1 h
    · rw [ofDocument?_eq_none hd]
      cases key <;> rfl
    · rw [ofMembers?_eq_none hrest]
      cases key <;> cases ofDocument? budget d <;> rfl

end

mutual

/-- Budgets that are enough give the same value. -/
theorem ofDocument?_congr :
    ∀ {b b' : Nat} {d : Document}, d.depth ≤ b → d.depth ≤ b' → ofDocument? b d = ofDocument? b' d
  | b, b', .list items, h, h' => by
    rw [depth] at h h'
    rw [ofDocument?, ofDocument?, if_neg (by omega), if_neg (by omega),
      ofItems?_congr (Nat.le_sub_one_of_lt h) (Nat.le_sub_one_of_lt h')]
  | b, b', .object members, h, h' => by
    rw [depth] at h h'
    rw [ofDocument?, ofDocument?, if_neg (by omega), if_neg (by omega),
      ofMembers?_congr (Nat.le_sub_one_of_lt h) (Nat.le_sub_one_of_lt h')]
  | _, _, .null, _, _ | _, _, .bool _, _, _ | _, _, .number _, _, _ | _, _, .text _, _, _ => rfl

theorem ofItems?_congr :
    ∀ {b b' : Nat} {items : List Document}, depthOfItems items ≤ b → depthOfItems items ≤ b' →
      ofItems? b items = ofItems? b' items
  | _, _, [], _, _ => rfl
  | b, b', d :: rest, h, h' => by
    obtain ⟨hd, hrest⟩ := max_le_iff.1 h
    obtain ⟨hd', hrest'⟩ := max_le_iff.1 h'
    rw [ofItems?, ofItems?, ofDocument?_congr hd hd', ofItems?_congr hrest hrest']

theorem ofMembers?_congr :
    ∀ {b b' : Nat} {members : List (Option String × Document)}, depthOfMembers members ≤ b →
      depthOfMembers members ≤ b' → ofMembers? b members = ofMembers? b' members
  | _, _, [], _, _ => rfl
  | b, b', (key, d) :: rest, h, h' => by
    obtain ⟨hd, hrest⟩ := max_le_iff.1 h
    obtain ⟨hd', hrest'⟩ := max_le_iff.1 h'
    rw [ofMembers?, ofMembers?, ofDocument?_congr hd hd', ofMembers?_congr hrest hrest']

end

/-- **A budget limits the depth**, and the value does not depend on it. -/
theorem ofDocument?_eq (budget : Nat) (d : Document) :
    ofDocument? budget d = if d.depth ≤ budget then d.value? else none := by
  split
  · next h => exact ofDocument?_congr h le_rfl
  · next h => exact ofDocument?_eq_none (Nat.lt_of_not_le h)

theorem ofDocument?_eq_some_iff {budget : Nat} {d : Document} {v : Value} :
    ofDocument? budget d = some v ↔ d.depth ≤ budget ∧ d.value? = some v := by
  rw [ofDocument?_eq]
  split
  · next h => exact (and_iff_right h).symm
  · next h => exact ⟨nofun, fun hv ↦ absurd hv.1 h⟩

end Value

end AccountDirectory.Json
