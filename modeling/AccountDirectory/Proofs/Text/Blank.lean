import AccountDirectory.Text.Blank
import Mathlib.Data.List.DropRight

/-!
# Trimmed texts, pieces and small letters

A trimmed text has no blank at either end, so trimming it again changes nothing (`trim_trim`), and
it is empty only if the text was blank (`trim_eq_empty_iff`). So it does not matter how many readers
of a text trim it, and a check for blank text may stand before the trimming or after it. Blanks that
are put around a text do not matter either (`trimBoth_append_append`).

A text that is put together with separators is cut there again (`pieces_append_cons`), if what is
put together has none. Conversely, the pieces of a text put together with the separator are the text
(`exists_of_pieces_eq_cons`).
-/

namespace AccountDirectory.Text

/-- Trimming drops from the left and then from the right. -/
theorem trimBoth_eq (cs : List Char) : trimBoth cs = (cs.dropWhile isBlank).rdropWhile isBlank :=
  rfl

theorem trimBoth_eq_nil_iff {cs : List Char} : trimBoth cs = [] ↔ cs.all isBlank := by
  rw [trimBoth_eq, List.rdropWhile_eq_nil_iff, List.all_eq_true]
  constructor
  · -- what is left of the left end is blank too, so nothing is left of it
    intro h c hc
    have hnil : cs.dropWhile isBlank = [] := by
      by_contra hne
      exact ne_true_of_eq_false (List.head_dropWhile_not isBlank hne) (h _ (List.head_mem hne))
    exact List.dropWhile_eq_nil_iff.1 hnil c hc
  · exact fun h c hc ↦ h c ((List.dropWhile_sublist _).subset hc)

/-- The left end of a trimmed text is no blank. -/
theorem dropWhile_trimBoth (cs : List Char) : (trimBoth cs).dropWhile isBlank = trimBoth cs := by
  rw [List.dropWhile_eq_self_iff]
  intro hl hb
  have hprefix : trimBoth cs <+: cs.dropWhile isBlank := List.rdropWhile_prefix isBlank _
  have hne : cs.dropWhile isBlank ≠ [] := by
    intro hnil
    rw [hnil] at hprefix
    rw [List.prefix_nil.1 hprefix] at hl
    exact Nat.lt_irrefl 0 hl
  have hhead : (trimBoth cs)[0] = (cs.dropWhile isBlank).head hne := by
    rw [List.IsPrefix.getElem hprefix, List.head_eq_getElem]
  rw [hhead, List.head_dropWhile_not isBlank hne] at hb
  cases hb

theorem trimBoth_trimBoth (cs : List Char) : trimBoth (trimBoth cs) = trimBoth cs := by
  rw [trimBoth_eq (trimBoth cs), dropWhile_trimBoth]
  exact List.rdropWhile_idempotent isBlank _

theorem trim_trim (s : String) : trim (trim s) = trim s := by
  rw [trim, trim, String.toList_ofList, trimBoth_trimBoth]

theorem toList_trim (s : String) : (trim s).toList = trimBoth s.toList := String.toList_ofList

theorem isBlankText_iff {s : String} : isBlankText s ↔ trimBoth s.toList = [] :=
  trimBoth_eq_nil_iff.symm

/-- A text is blank if nothing of it is left by trimming. -/
theorem trim_eq_empty_iff {s : String} : trim s = "" ↔ isBlankText s := by
  rw [isBlankText_iff, ← toList_trim, String.toList_eq_nil_iff]

theorem isBlankText_trim (s : String) : isBlankText (trim s) = isBlankText s := by
  rw [Bool.eq_iff_iff, ← trim_eq_empty_iff, trim_trim, trim_eq_empty_iff]

/-- The text is not blank, and no blank is at either end of it. -/
def IsTrimmed (s : String) : Prop := ¬isBlankText s ∧ trim s = s

/-- What is left by trimming is trimmed, unless nothing is left. -/
theorem isTrimmed_trim {s : String} (h : trim s ≠ "") : IsTrimmed (trim s) := by
  refine ⟨fun hblank ↦ h ?_, trim_trim s⟩
  rw [isBlankText_trim] at hblank
  exact trim_eq_empty_iff.2 hblank

/-- A digit is no blank. -/
theorem not_isBlank_of_isDigit {c : Char} (h : c.isDigit) : ¬isBlank c := by
  have hrange : '0'.toNat ≤ c.toNat ∧ c.toNat ≤ '9'.toNat := by
    simpa [Char.isDigit, UInt32.le_iff_toNat_le] using h
  have hzero : '0'.toNat = 48 := rfl
  have hnine : '9'.toNat = 57 := rfl
  simp only [isBlank, Bool.or_eq_true, Bool.and_eq_true, decide_eq_true_eq, beq_iff_eq]
  omega

/-- A small letter is no blank. -/
theorem not_isBlank_of_isLower {c : Char} (h : c.isLower) : ¬isBlank c := by
  have hbounds : (decide ('a'.val ≤ c.val) && decide (c.val ≤ 'z'.val)) = true := h
  have hrange : 'a'.toNat ≤ c.toNat ∧ c.toNat ≤ 'z'.toNat := by
    simpa [UInt32.le_iff_toNat_le] using hbounds
  have ha : 'a'.toNat = 97 := rfl
  have hz : 'z'.toNat = 122 := rfl
  simp only [isBlank, Bool.or_eq_true, Bool.and_eq_true, decide_eq_true_eq, beq_iff_eq]
  omega

/-! ### Blanks around a text -/

theorem trimStart_append {front cs : List Char} (h : ∀ c ∈ front, isBlank c) :
    trimStart (front ++ cs) = trimStart cs :=
  List.dropWhile_append_of_pos h

/-- **Trimming drops the blanks that are put around a text.** -/
theorem trimBoth_append_append {front cs back : List Char} (hfront : ∀ c ∈ front, isBlank c)
    (hback : ∀ c ∈ back, isBlank c) : trimBoth (front ++ (cs ++ back)) = trimBoth cs := by
  rw [trimBoth, trimStart_append hfront, trimStart, List.dropWhile_append]
  split
  · -- nothing is left at the start, so the text is blank and so is what follows
    next hnil =>
    have hrest : back.dropWhile isBlank = [] := List.dropWhile_eq_nil_iff.2 hback
    rw [hrest, trimBoth, trimStart, List.isEmpty_iff.1 hnil]
  · rw [trimEnd, List.reverse_append,
      List.dropWhile_append_of_pos fun c hc ↦ hback c (List.mem_reverse.1 hc), trimBoth, trimEnd,
      trimStart]

/-- A text is trimmed already if neither end of it is a blank. -/
theorem trimBoth_eq_self {cs : List Char} (hfirst : ∀ c ∈ cs.head?, ¬isBlank c)
    (hlast : ∀ c ∈ cs.getLast?, ¬isBlank c) : trimBoth cs = cs := by
  have hstart : cs.dropWhile isBlank = cs := by
    cases cs with
    | nil => rfl
    | cons c rest => exact List.dropWhile_cons_of_neg (hfirst c rfl)
  rw [trimBoth_eq, hstart, List.rdropWhile_eq_self_iff]
  exact fun hne ↦ hlast _ (List.getLast?_eq_some_getLast hne)

/-- **Trimming drops nothing but blanks.** -/
theorem mem_trimBoth_iff {c : Char} {cs : List Char} (hc : ¬isBlank c) :
    c ∈ trimBoth cs ↔ c ∈ cs := by
  have hdrop : ∀ {xs : List Char}, c ∈ xs.dropWhile isBlank ↔ c ∈ xs := by
    intro xs
    refine ⟨fun h ↦ (List.dropWhile_sublist _).subset h, fun h ↦ ?_⟩
    rw [← List.takeWhile_append_dropWhile (p := isBlank) (l := xs)] at h
    obtain hblank | hrest := List.mem_append.1 h
    · exact absurd (List.mem_takeWhile_imp hblank) hc
    · exact hrest
  rw [trimBoth, trimEnd, trimStart, List.mem_reverse, hdrop, List.mem_reverse, hdrop]

/-! ### Pieces -/

variable {separator : Char} {cs rest : List Char}

theorem pieces_eq_singleton (h : separator ∉ cs) : pieces separator cs = [cs] := by
  induction cs with
  | nil => rfl
  | cons c cs ih =>
    rw [List.mem_cons, not_or] at h
    rw [pieces, if_neg (Ne.symm h.1), ih h.2]

theorem pieces_append_cons (h : separator ∉ cs) :
    pieces separator (cs ++ separator :: rest) = cs :: pieces separator rest := by
  induction cs with
  | nil => rw [List.nil_append, pieces, if_pos rfl]
  | cons c cs ih =>
    rw [List.mem_cons, not_or] at h
    rw [List.cons_append, pieces, if_neg (Ne.symm h.1), ih h.2]

theorem pieces_ne_nil (separator : Char) (cs : List Char) : pieces separator cs ≠ [] := by
  cases cs with
  | nil => exact List.cons_ne_nil _ _
  | cons c cs =>
    rw [pieces]
    split
    · exact List.cons_ne_nil _ _
    · split <;> exact List.cons_ne_nil _ _

/-- The one piece of a text is the text, -/
theorem eq_of_pieces_eq_singleton {piece : List Char} (h : pieces separator cs = [piece]) :
    cs = piece := by
  induction cs generalizing piece with
  | nil => exact (List.cons.inj h).1
  | cons c cs ih =>
    rw [pieces] at h
    split at h
    · exact absurd (List.cons.inj h).2 (pieces_ne_nil separator cs)
    · cases hrest : pieces separator cs with
      | nil => exact absurd hrest (pieces_ne_nil separator cs)
      | cons first later =>
        rw [hrest] at h
        obtain ⟨rfl, rfl⟩ := List.cons.inj h
        rw [ih hrest]

/-- and where there are more, a separator follows the first one. -/
theorem exists_of_pieces_eq_cons {piece next : List Char} {later : List (List Char)}
    (h : pieces separator cs = piece :: next :: later) :
    ∃ rest, cs = piece ++ separator :: rest ∧ pieces separator rest = next :: later := by
  induction cs generalizing piece with
  | nil => cases h
  | cons c cs ih =>
    rw [pieces] at h
    split at h
    · next hc =>
      obtain ⟨rfl, hrest⟩ := List.cons.inj h
      exact ⟨cs, by rw [hc, List.nil_append], hrest⟩
    · cases hrest : pieces separator cs with
      | nil => exact absurd hrest (pieces_ne_nil separator cs)
      | cons first others =>
        rw [hrest] at h
        obtain ⟨rfl, rfl⟩ := List.cons.inj h
        obtain ⟨rest, rfl, hnext⟩ := ih hrest
        exact ⟨rest, rfl, hnext⟩

/-! ### Small letters -/

/-- A character that has become this one was it before, or its capital letter. -/
theorem eq_or_isUpper_of_toLower_eq {c x : Char} (h : c.toLower = x) :
    c = x ∨ c.isUpper ∧ c.toNat + 32 = x.toNat := by
  unfold Char.toLower at h
  split_ifs at h with hupper
  · subst h
    have hleast : 'A'.toNat ≤ c.toNat := UInt32.le_iff_toNat_le.1 hupper.1
    have hgreatest : c.toNat ≤ 'Z'.toNat := UInt32.le_iff_toNat_le.1 hupper.2
    have hnone : 'Z'.toNat + 32 < 2 ^ 32 := by decide
    refine .inr ⟨decide_eq_true hupper, ?_⟩
    show c.toNat + 32 = (c.val + 32).toNat
    rw [UInt32.toNat_add, Nat.mod_eq_of_lt]
    · rfl
    · exact Nat.lt_of_le_of_lt (Nat.add_le_add_right hgreatest 32) hnone
  · exact .inl h

/-- A character that has become a small letter was it before, or is its capital letter. -/
theorem eq_or_eq_toUpper_of_toLower_eq {c x : Char} (h : c.toLower = x) (hx : x.isLower) :
    c = x ∨ c = x.toUpper := by
  obtain rfl | ⟨-, hshift⟩ := eq_or_isUpper_of_toLower_eq h
  · exact .inl rfl
  · have hbounds : (decide ('a'.val ≤ x.val) && decide (x.val ≤ 'z'.val)) = true := hx
    have hrange : 'a'.val ≤ x.val ∧ x.val ≤ 'z'.val := by simpa using hbounds
    have hoffset : ('A'.val - 'a'.val).toNat = 2 ^ 32 - 32 := rfl
    have hsmall : x.toNat < 2 ^ 32 := x.val.toNat_lt
    unfold Char.toUpper
    rw [dif_pos hrange]
    refine .inr (Char.ext (UInt32.toNat_inj.1 ?_))
    rw [UInt32.toNat_add, hoffset]
    show c.toNat = (x.toNat + (2 ^ 32 - 32)) % 2 ^ 32
    omega

/-- Only small letters come from another character. -/
theorem eq_of_toLower_eq {c x : Char} (h : c.toLower = x) (hx : x.toNat < 'a'.toNat) : c = x := by
  obtain rfl | ⟨hupper, hshift⟩ := eq_or_isUpper_of_toLower_eq h
  · rfl
  · have hrange : c.val ≥ 'A'.val ∧ c.val ≤ 'Z'.val := of_decide_eq_true hupper
    have hleast : 'A'.toNat ≤ c.toNat := UInt32.le_iff_toNat_le.1 hrange.1
    have hsmall : 'a'.toNat = 'A'.toNat + 32 := rfl
    omega

theorem isBlank_toLower (c : Char) : isBlank c.toLower = isBlank c := by
  obtain hsame | ⟨hupper, hshift⟩ := eq_or_isUpper_of_toLower_eq (rfl : c.toLower = c.toLower)
  · rw [← hsame]
  · have hrange : c.val ≥ 'A'.val ∧ c.val ≤ 'Z'.val := of_decide_eq_true hupper
    have hleast : 65 ≤ c.toNat := UInt32.le_iff_toNat_le.1 hrange.1
    have hgreatest : c.toNat ≤ 90 := UInt32.le_iff_toNat_le.1 hrange.2
    rw [isBlank, isBlank, Bool.eq_iff_iff]
    simp only [Bool.or_eq_true, Bool.and_eq_true, decide_eq_true_eq, beq_iff_eq]
    omega

theorem asciiLower_trimBoth (cs : List Char) :
    asciiLower (trimBoth cs) = trimBoth (asciiLower cs) := by
  have hdrop : ∀ cs : List Char, (asciiLower cs).dropWhile isBlank =
      asciiLower (cs.dropWhile isBlank) := by
    intro cs
    rw [asciiLower, List.dropWhile_map, asciiLower]
    congr 2
    exact funext isBlank_toLower
  have hreverse : ∀ cs : List Char, (asciiLower cs).reverse = asciiLower cs.reverse :=
    fun cs ↦ List.map_reverse.symm
  rw [trimBoth, trimBoth, trimStart, trimStart, trimEnd, trimEnd, hdrop, hreverse, hdrop, hreverse]

end AccountDirectory.Text
