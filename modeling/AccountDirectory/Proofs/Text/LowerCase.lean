import AccountDirectory.Proofs.Text.Blank
import AccountDirectory.Text.LowerCase

/-!
# Lower case and blanks

Lower-casing makes no blank out of another character (`isBlank_of_isBlank_lowerChar`): of each row
of the table, all partners lie between two ranges of blanks. So a text whose lower case is blank was
blank before (`all_isBlank_of_lower`), and a check for blank text may stand before the lower-casing
or after it.
-/

namespace AccountDirectory.Text

/-- The ranges of the blank characters. -/
def blankRanges : List (Nat × Nat) :=
  [(0x9, 0xD), (0x20, 0x20), (0x85, 0x85), (0xA0, 0xA0), (0x1680, 0x1680), (0x2000, 0x200A),
    (0x2028, 0x2029), (0x202F, 0x202F), (0x205F, 0x205F), (0x3000, 0x3000)]

theorem exists_blankRange {c : Char} (h : isBlank c) :
    ∃ range ∈ blankRanges, range.1 ≤ c.toNat ∧ c.toNat ≤ range.2 := by
  simp only [isBlank, Bool.or_eq_true, Bool.and_eq_true, decide_eq_true_eq, beq_iff_eq] at h
  simp only [blankRanges, List.mem_cons, List.not_mem_nil, or_false, exists_eq_or_imp,
    exists_eq_left]
  omega

namespace LowerCase

/-- The partners of a row lie outside a range. -/
def Row.Avoids (r : Row) (range : Nat × Nat) : Prop :=
  r.last + r.shift < range.1 ∨ range.2 < r.first + r.shift

instance (r : Row) (range : Nat × Nat) : Decidable (r.Avoids range) :=
  inferInstanceAs (Decidable (_ ∨ _))

theorem avoids_blankRanges : ∀ r ∈ lowerRows, ∀ range ∈ blankRanges, r.Avoids range := by
  decide +kernel

/-- The number of a character that is made from a number, unless the number names none. -/
theorem toNat_charOfNat (n : Nat) : (Char.ofNat n).toNat = n ∨ (Char.ofNat n).toNat = 0 := by
  by_cases hn : n.isValidChar
  · exact .inl (congrArg Char.toNat (dif_pos hn))
  · exact .inr (congrArg Char.toNat (dif_neg hn))

/-- **The partner of a character is blank only if the character is.** -/
theorem isBlank_of_isBlank_lowerChar {c : Char} (h : isBlank (lowerChar c)) : isBlank c := by
  rw [lowerChar] at h
  split at h
  · next r hr =>
    exfalso
    obtain ⟨range, hrange, hfirst, hlast⟩ := exists_blankRange h
    have havoids := avoids_blankRanges r (List.mem_of_find?_eq_some hr) range hrange
    have hin := List.find?_some hr
    simp only [Bool.and_eq_true, decide_eq_true_eq] at hin
    have hpositive : 0 < range.1 :=
      (show ∀ range ∈ blankRanges, 0 < range.1 by decide) range hrange
    unfold Row.Avoids at havoids
    rcases toNat_charOfNat (c.toNat + r.shift).toNat with hn | hn
    · rw [hn] at hfirst hlast
      omega
    · omega
  · exact h

/-- **A text is blank if its lower case is.** -/
theorem all_isBlank_of_lowerFrom {before cs : List Char} (h : (lowerFrom before cs).all isBlank) :
    cs.all isBlank := by
  induction cs generalizing before with
  | nil => rfl
  | cons c rest ih =>
    rw [lowerFrom, List.all_append, Bool.and_eq_true] at h
    rw [List.all_cons, ih h.2, Bool.and_true]
    have hc := h.1
    -- of the special partners none is blank
    split_ifs at hc
    · cases hc
    · cases hc
    · cases hc
    · rw [List.all_cons, List.all_nil, Bool.and_true] at hc
      exact isBlank_of_isBlank_lowerChar hc

theorem all_isBlank_of_lower {cs : List Char} (h : (lower cs).all isBlank) : cs.all isBlank :=
  all_isBlank_of_lowerFrom h

end LowerCase

end AccountDirectory.Text
