import AccountDirectory.Text.Blank

/-!
# Words

A text splits into words (`SplitsInto`) if the words stand in it one after the other, each as long
as it can be, and all else in it is blank. Every text splits in one way, and `words` finds it
(`words_eq_iff`). So words that are joined with a blank are found again
(`words_intercalate`).
-/

namespace AccountDirectory.Text

/-- **The text splits into these words.** -/
inductive SplitsInto : List Char → List (List Char) → Prop
  | nil : SplitsInto [] []
  /-- A blank is no part of a word. -/
  | blank {c cs ws} (hc : isBlank c) (h : SplitsInto cs ws) : SplitsInto (c :: cs) ws
  /-- A word ends before a blank or with the text. -/
  | word {w cs ws} (hne : w ≠ []) (hw : ∀ c ∈ w, ¬isBlank c) (hend : ∀ c ∈ cs.head?, isBlank c)
    (h : SplitsInto cs ws) : SplitsInto (w ++ cs) (w :: ws)

variable {c : Char} {w cs : List Char} {ws : List (List Char)}

/-! ### Words are found -/

theorem words_cons_of_isBlank (hc : isBlank c) : words (c :: cs) = words cs := by
  rw [words, leadingWord]
  simp only [hc, if_true]
  rfl

/-- A text that does not begin with a word has all its words behind that. -/
theorem leadingWord_of_head? (h : ∀ c ∈ cs.head?, isBlank c) : leadingWord cs = ([], words cs) := by
  cases cs with
  | nil => rfl
  | cons c cs =>
    have hc : isBlank c := h c rfl
    rw [words_cons_of_isBlank hc, leadingWord, words]
    simp only [hc, if_true]

theorem leadingWord_append (hw : ∀ c ∈ w, ¬isBlank c) (hend : ∀ c ∈ cs.head?, isBlank c) :
    leadingWord (w ++ cs) = (w, words cs) := by
  induction w with
  | nil => exact leadingWord_of_head? hend
  | cons c w ih =>
    obtain ⟨hc, hw⟩ := List.forall_mem_cons.1 hw
    rw [List.cons_append, leadingWord, ih hw]
    simp only [hc, if_false, Bool.false_eq_true]

theorem words_append (hne : w ≠ []) (hw : ∀ c ∈ w, ¬isBlank c) (hend : ∀ c ∈ cs.head?, isBlank c) :
    words (w ++ cs) = w :: words cs := by
  rw [words, leadingWord_append hw hend]
  simp [hne]

/-- The words that a text splits into are found. -/
theorem SplitsInto.words_eq (h : SplitsInto cs ws) : words cs = ws := by
  induction h with
  | nil => rfl
  | blank hc _ ih => rw [words_cons_of_isBlank hc, ih]
  | word hne hw hend _ ih => rw [words_append hne hw hend, ih]

/-! ### What is found -/

/-- A leading word, which may be empty, is put before the words of what follows it. -/
theorem splitsInto_append (hw : ∀ c ∈ w, ¬isBlank c) (hend : ∀ c ∈ cs.head?, isBlank c)
    (h : SplitsInto cs ws) : SplitsInto (w ++ cs) (if w.isEmpty then ws else w :: ws) := by
  cases w with
  | nil => exact h
  | cons c w => exact .word (List.cons_ne_nil c w) hw hend h

/-- A text is its leading word and a rest that splits into the words after it. -/
theorem exists_rest_leadingWord (cs : List Char) :
    ∃ rest, cs = (leadingWord cs).1 ++ rest ∧ (∀ c ∈ (leadingWord cs).1, ¬isBlank c) ∧
      (∀ c ∈ rest.head?, isBlank c) ∧ SplitsInto rest (leadingWord cs).2 := by
  induction cs with
  | nil => exact ⟨[], rfl, nofun, nofun, .nil⟩
  | cons c cs ih =>
    obtain ⟨rest, hcs, hword, hend, hrest⟩ := ih
    rw [leadingWord]
    generalize leadingWord cs = cut at hcs hword hrest
    obtain ⟨word, later⟩ := cut
    dsimp only at hcs hword hrest ⊢
    by_cases hc : isBlank c
    · rw [if_pos hc]
      refine ⟨c :: cs, rfl, nofun, fun d hd ↦ Option.some.inj hd ▸ hc, .blank hc ?_⟩
      exact hcs ▸ splitsInto_append hword hend hrest
    · rw [if_neg hc]
      exact ⟨rest, by rw [List.cons_append, ← hcs], List.forall_mem_cons.2 ⟨hc, hword⟩, hend, hrest⟩

theorem splitsInto_words (cs : List Char) : SplitsInto cs (words cs) := by
  obtain ⟨rest, hcs, hword, hend, hrest⟩ := exists_rest_leadingWord cs
  rw [words]
  generalize leadingWord cs = cut at hcs hword hrest
  obtain ⟨word, later⟩ := cut
  exact hcs ▸ splitsInto_append hword hend hrest

/-- **The words of a text** are those that it splits into. -/
theorem words_eq_iff : words cs = ws ↔ SplitsInto cs ws :=
  ⟨fun h ↦ h ▸ splitsInto_words cs, SplitsInto.words_eq⟩

/-! ### Words as texts -/

theorem map_ofList_map_toList (ss : List String) : (ss.map String.toList).map String.ofList = ss := by
  simp

theorem map_toList_map_ofList (ws : List (List Char)) :
    (ws.map String.ofList).map String.toList = ws := by
  simp

/-! ### Words that are joined -/

/-- **Words with a blank between them** are the words of the whole. -/
theorem words_intercalate (hc : isBlank c) (h : ∀ w ∈ ws, w ≠ [] ∧ ∀ c ∈ w, ¬isBlank c) :
    words ([c].intercalate ws) = ws := by
  induction ws with
  | nil => rfl
  | cons w ws ih =>
    obtain ⟨⟨hne, hw⟩, hws⟩ := List.forall_mem_cons.1 h
    cases ws with
    | nil =>
      have hwords : words (w ++ []) = w :: words [] :=
        words_append hne hw fun c hc ↦ absurd hc nofun
      rw [List.append_nil] at hwords
      rw [List.intercalate_singleton, hwords]
      rfl
    | cons w' ws =>
      have hend : ∀ d ∈ (c :: [c].intercalate (w' :: ws)).head?, isBlank d :=
        fun d hd ↦ Option.some.inj hd ▸ hc
      rw [List.intercalate_cons_cons, List.append_assoc, List.singleton_append,
        words_append hne hw hend, words_cons_of_isBlank hc, ih hws]

end AccountDirectory.Text
