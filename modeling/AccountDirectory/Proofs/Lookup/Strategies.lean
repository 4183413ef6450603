import AccountDirectory.Proofs.Lookup
import AccountDirectory.Proofs.Lookup.TokenShape
import AccountDirectory.Proofs.Verifier.Classification

/-!
# The strategies

Every identifier is classified in one way, and `IsClassified` lists the ways: it is blank, or it is a
token with at most the word `Bearer` before it, or it has a `|`, or it has none.

**The three alphabets.** A token consists of letters and dots (`eq_dot_or_mem_alphabet`). So it has
no blank, no `|`, and does not begin with the word. This is what keeps the tests apart:

* no identifier is both a token and has a `|`, so the order of the two tests does not matter
  (`classifySubjectFirst_eq`);
* the word is cut off where it is one, and a token is cut off nothing (`stripBearer_of_token`);
* the value of a strategy is classified as it was.
-/

namespace AccountDirectory.Lookup

variable {cs token : List Char}

/-! ### The word before a token -/

/-- What becomes the word in small letters is a casing of it. -/
theorem isBearerWord_of_asciiLower {word : List Char} (h : Text.asciiLower word = bearerWord) :
    IsBearerWord word := by
  have hall : bearerWord.Forall fun x ↦ x = ' ' ∨ x.isLower := by
    rw [bearerWord_eq]
    decide
  unfold IsBearerWord
  generalize bearerWord = spelling at h hall
  induction spelling generalizing word with
  | nil =>
    rw [List.map_eq_nil_iff.1 h]
    exact .nil
  | cons x spelling ih =>
    obtain ⟨c, rest, rfl, hc, hrest⟩ := List.map_eq_cons_iff.1 h
    obtain ⟨hx, hspelling⟩ := (List.forall_cons _ _ _).1 hall
    refine .cons ?_ (ih hrest hspelling)
    obtain rfl | hlower := hx
    · exact .inl (Text.eq_of_toLower_eq hc (by decide))
    · exact Text.eq_or_eq_toUpper_of_toLower_eq hc hlower

/-- **What a token may be cut from**: itself, or the word, blanks and itself. -/
theorem stripBearer_eq_token_iff (h : looksLikeToken token) :
    stripBearer cs = token ↔
      cs = token ∨ ∃ word gap, IsBearerWord word ∧ AreBlanks gap ∧ cs = word ++ (gap ++ token) := by
  constructor
  · rintro rfl
    by_cases hword : Text.asciiLower (cs.take bearerWord.length) = bearerWord
    · rw [stripBearer, if_pos hword]
      refine .inr ⟨_, (cs.drop bearerWord.length).takeWhile Text.isBlank,
        isBearerWord_of_asciiLower hword, fun c hc ↦ List.mem_takeWhile_imp hc, ?_⟩
      rw [Text.trimStart, List.takeWhile_append_dropWhile, List.take_append_drop]
    · rw [stripBearer, if_neg hword]
      exact .inl rfl
  · rintro (rfl | ⟨word, gap, hword, hgap, rfl⟩)
    · exact stripBearer_of_token h
    · exact stripBearer_append hword hgap fun c hc ↦
        not_isBlank_of_mem_token h (List.mem_of_mem_head? hc)

/-! ### The test for a subject -/

/-- Trimming does not touch a `|`. -/
theorem pipe_mem_trimBoth_iff : '|' ∈ Text.trimBoth cs ↔ '|' ∈ cs :=
  Text.mem_trimBoth_iff (by decide)

/-- The word and the blanks after it have no `|`. -/
theorem pipe_notMem_of_isBearerWord {word gap : List Char} (hword : IsBearerWord word)
    (hgap : AreBlanks gap) : '|' ∉ word ++ gap := by
  have hsmall : '|' ∉ bearerWord := by
    rw [bearerWord_eq]
    decide
  intro hpipe
  obtain hpipe | hpipe := List.mem_append.1 hpipe
  · refine hsmall ?_
    rw [← hword.asciiLower_eq]
    exact List.mem_map.2 ⟨'|', hpipe, rfl⟩
  · exact absurd (hgap '|' hpipe) (by decide)

/-- **No identifier passes both tests**, that for a token and that for a `|`. -/
theorem not_token_and_pipe (input : String) :
    ¬(looksLikeToken (stripBearer (Text.trimBoth input.toList)) ∧ '|' ∈ input.toList) := by
  rintro ⟨htoken, hpipe⟩
  rw [← pipe_mem_trimBoth_iff] at hpipe
  obtain heq | ⟨word, gap, hword, hgap, heq⟩ := (stripBearer_eq_token_iff htoken).1 rfl
  · rw [heq] at hpipe
    exact pipe_notMem_token htoken hpipe
  · rw [heq, ← List.append_assoc] at hpipe
    obtain hbefore | htail := List.mem_append.1 hpipe
    · exact pipe_notMem_of_isBearerWord hword hgap hbefore
    · exact pipe_notMem_token htoken htail

/-- The classification with the two tests in the other order. -/
def classifySubjectFirst (input : String) : Option Strategy :=
  let cs := Text.trimBoth input.toList
  if cs.isEmpty then none
  else if cs.contains '|' then some (.subject (String.ofList cs))
  else
    let candidate := stripBearer cs
    if looksLikeToken candidate then some (.token (String.ofList candidate))
    else some (.username (String.ofList cs))

theorem classifySubjectFirst_eq (input : String) : classifySubjectFirst input = classify input := by
  rw [classifySubjectFirst, classify]
  dsimp only
  have hboth := not_token_and_pipe input
  rw [← pipe_mem_trimBoth_iff, ← List.contains_iff_mem] at hboth
  split_ifs with hempty hpipe htoken htoken
  · rfl
  · exact absurd ⟨htoken, hpipe⟩ hboth
  · rfl
  · rfl
  · rfl

/-! ### The law -/

/-- The value that a strategy carries. -/
def Strategy.value : Strategy → String
  | .token value | .subject value | .username value => value

/-- Classification looks at the trimmed identifier only. -/
theorem classify_congr {input other : String}
    (h : Text.trimBoth input.toList = Text.trimBoth other.toList) :
    classify input = classify other := by
  rw [classify, classify, h]

theorem classify_trim (input : String) : classify (Text.trim input) = classify input :=
  classify_congr (by rw [Text.toList_trim, Text.trimBoth_trimBoth])

/-- **How an identifier is classified.** -/
structure IsClassified (input : String) : Prop where
  /-- A blank identifier is resolved in no way. -/
  blank : classify input = none ↔ Text.isBlankText input
  /-- A token stands by itself or after the word, in any casing, and blanks. -/
  token : ∀ t, classify input = some (.token t) ↔
    looksLikeToken t.toList ∧
      (Text.trim input = t ∨ ∃ word gap, IsBearerWord word ∧ AreBlanks gap ∧
        (Text.trim input).toList = word ++ (gap ++ t.toList))
  /-- What is neither blank nor a token is a subject if it has a `|`, -/
  subject : ∀ v, classify input = some (.subject v) ↔
    ¬Text.isBlankText input ∧ (∀ t, classify input ≠ some (.token t)) ∧ '|' ∈ input.toList ∧
      v = Text.trim input
  /-- and else a username. -/
  username : ∀ v, classify input = some (.username v) ↔
    ¬Text.isBlankText input ∧ (∀ t, classify input ≠ some (.token t)) ∧ '|' ∉ input.toList ∧
      v = Text.trim input
  /-- Blanks around the identifier do not matter. -/
  padded : ∀ front back, AreBlanks front → AreBlanks back →
    classify (String.ofList (front ++ (input.toList ++ back))) = classify input
  /-- The value is classified as the identifier was. -/
  stable : ∀ strategy, classify input = some strategy → classify strategy.value = some strategy
  /-- No identifier passes both tests, -/
  disjoint : ¬(looksLikeToken (stripBearer (Text.trimBoth input.toList)) ∧ '|' ∈ input.toList)
  /-- so their order does not matter. -/
  unordered : classifySubjectFirst input = classify input

/-- What is neither blank nor a token is told by the `|`. -/
theorem classify_of_no_token {input : String} (hblank : ¬Text.isBlankText input)
    (hno : ∀ t, classify input ≠ some (.token t)) :
    classify input = some (if '|' ∈ input.toList then .subject (Text.trim input)
      else .username (Text.trim input)) := by
  rw [Text.isBlankText_iff] at hblank
  have htoken : ¬looksLikeToken (stripBearer (Text.trimBoth input.toList)) := by
    intro h
    refine hno (String.ofList _) (classify_eq_token_iff.2 ⟨String.toList_ofList, ?_⟩)
    rwa [String.toList_ofList]
  rw [classify]
  dsimp only
  rw [if_neg (by simpa using hblank), if_neg htoken]
  simp only [List.contains_iff_mem, pipe_mem_trimBoth_iff]
  split_ifs <;> rfl

/-- A strategy that is not that of a token, and its value. -/
theorem no_token_of_classify {input : String} {strategy : Strategy}
    (h : classify input = some strategy) (hstrategy : ∀ t, strategy ≠ .token t) :
    ¬Text.isBlankText input ∧ ∀ t, classify input ≠ some (.token t) := by
  rw [← classify_eq_none_iff, h]
  exact ⟨Option.some_ne_none strategy, fun t ht ↦ hstrategy t (Option.some.inj ht)⟩

theorem classify_eq_subject_iff {input v : String} :
    classify input = some (.subject v) ↔
      ¬Text.isBlankText input ∧ (∀ t, classify input ≠ some (.token t)) ∧ '|' ∈ input.toList ∧
        v = Text.trim input := by
  constructor
  · intro h
    obtain ⟨hblank, hno⟩ := no_token_of_classify h nofun
    refine ⟨hblank, hno, ?_, eq_trim_of_classify_subject h⟩
    by_contra hpipe
    rw [classify_of_no_token hblank hno, if_neg hpipe] at h
    cases h
  · rintro ⟨hblank, hno, hpipe, rfl⟩
    rw [classify_of_no_token hblank hno, if_pos hpipe]

theorem classify_eq_username_iff {input v : String} :
    classify input = some (.username v) ↔
      ¬Text.isBlankText input ∧ (∀ t, classify input ≠ some (.token t)) ∧ '|' ∉ input.toList ∧
        v = Text.trim input := by
  constructor
  · intro h
    obtain ⟨hblank, hno⟩ := no_token_of_classify h nofun
    refine ⟨hblank, hno, fun hpipe ↦ ?_, eq_trim_of_classify_username h⟩
    rw [classify_of_no_token hblank hno, if_pos hpipe] at h
    cases h
  · rintro ⟨hblank, hno, hpipe, rfl⟩
    rw [classify_of_no_token hblank hno, if_neg hpipe]

theorem classify_eq_some_token_iff {input t : String} :
    classify input = some (.token t) ↔
      looksLikeToken t.toList ∧
        (Text.trim input = t ∨ ∃ word gap, IsBearerWord word ∧ AreBlanks gap ∧
          (Text.trim input).toList = word ++ (gap ++ t.toList)) := by
  rw [classify_eq_token_iff, Spells, and_comm, @eq_comm _ t.toList]
  refine and_congr_right fun htoken ↦ ?_
  rw [stripBearer_eq_token_iff htoken, ← Text.toList_trim, String.toList_inj]

/-- **The value of a strategy is classified as the identifier was.** -/
theorem classify_value {input : String} {strategy : Strategy}
    (h : classify input = some strategy) : classify strategy.value = some strategy := by
  cases strategy with
  | token t =>
    have htoken := (classify_eq_token_iff.1 h).2
    refine classify_eq_token_iff.2 ⟨?_, htoken⟩
    rw [Strategy.value, trimBoth_of_token htoken, stripBearer_of_token htoken]
  | subject v => rw [Strategy.value, eq_trim_of_classify_subject h, classify_trim, h,
      eq_trim_of_classify_subject h]
  | username v => rw [Strategy.value, eq_trim_of_classify_username h, classify_trim, h,
      eq_trim_of_classify_username h]

/-- **Classification is exact, and blind to blanks around an identifier**, for every text. -/
theorem classify_isClassified (input : String) : IsClassified input where
  blank := classify_eq_none_iff
  token _ := classify_eq_some_token_iff
  subject _ := classify_eq_subject_iff
  username _ := classify_eq_username_iff
  padded front back hfront hback := by
    refine classify_congr ?_
    rw [String.toList_ofList, Text.trimBoth_append_append hfront hback]
  stable _ := classify_value
  disjoint := not_token_and_pipe input
  unordered := classifySubjectFirst_eq input

example : classify "Bearer Bearer e30.a.b" = some (.username "Bearer Bearer e30.a.b") := by
  decide +kernel

end AccountDirectory.Lookup
