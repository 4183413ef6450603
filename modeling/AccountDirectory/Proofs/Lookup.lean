import AccountDirectory.Lookup
import AccountDirectory.Proofs.Text.Blank

/-!
# What an identifier is taken for

`classify` names a strategy with a value. A token is the identifier without the word `Bearer` before
it, and only texts of the shape of a token are taken for one (`classify_eq_token_iff`). In every
other case the value is the trimmed identifier. An identifier is resolved in no way only if it is
blank, so the value of a strategy is never blank.
-/

namespace AccountDirectory.Lookup

/-- **The identifier spells this token**: trimmed, and without the word `Bearer`, it is the token
and has the shape of one. -/
def Spells (input token : String) : Prop :=
  token.toList = stripBearer (Text.trimBoth input.toList) ∧ looksLikeToken token.toList

theorem stripBearer_nil : stripBearer [] = [] := rfl

theorem looksLikeToken_nil : looksLikeToken [] = false := rfl

/-- An identifier is resolved in no way if and only if it is blank. -/
theorem classify_eq_none_iff {input : String} :
    classify input = none ↔ Text.isBlankText input := by
  rw [Text.isBlankText_iff, classify]
  dsimp only
  constructor
  · intro h
    by_contra hne
    rw [if_neg (by simpa using hne)] at h
    split_ifs at h
  · intro h
    rw [h]
    rfl

/-- **An identifier is taken for a token** if and only if it spells it. -/
theorem classify_eq_token_iff {input token : String} :
    classify input = some (.token token) ↔ Spells input token := by
  rw [classify, Spells]
  dsimp only
  constructor
  · intro h
    split_ifs at h with _ hl
    · obtain rfl := Strategy.token.inj (Option.some.inj h)
      rw [String.toList_ofList]
      exact ⟨rfl, hl⟩
    · cases h
    · cases h
  · rintro ⟨ht, hl⟩
    rw [ht] at hl
    -- what has the shape of a token is not empty, so neither is what it was cut from
    have hne : Text.trimBoth input.toList ≠ [] := by
      intro hnil
      rw [hnil, stripBearer_nil, looksLikeToken_nil] at hl
      cases hl
    rw [if_neg (by simpa using hne), if_pos hl, ← ht, String.ofList_toList]

example : classify " bEARER  e30.a.b\n" = some (.token "e30.a.b") := by decide +kernel

/-- A subject is the trimmed identifier. -/
theorem eq_trim_of_classify_subject {input subject : String}
    (h : classify input = some (.subject subject)) : subject = Text.trim input := by
  rw [classify] at h
  dsimp only at h
  split_ifs at h
  · cases h
  · exact (Strategy.subject.inj (Option.some.inj h)).symm
  · cases h

/-- A username is the trimmed identifier. -/
theorem eq_trim_of_classify_username {input username : String}
    (h : classify input = some (.username username)) : username = Text.trim input := by
  rw [classify] at h
  dsimp only at h
  split_ifs at h
  · cases h
  · cases h
  · exact (Strategy.username.inj (Option.some.inj h)).symm

/-- What is resolved in some way is not blank, and neither is it after trimming. -/
theorem not_isBlankText_trim_of_classify {input : String} {strategy : Strategy}
    (h : classify input = some strategy) : ¬Text.isBlankText (Text.trim input) := by
  rw [Text.isBlankText_trim, ← classify_eq_none_iff, h]
  exact Option.some_ne_none strategy

/-- A token is not empty. -/
theorem ne_empty_of_spells {input token : String} (h : Spells input token) : token ≠ "" := by
  rintro rfl
  have hl := h.2
  rw [String.toList_empty, looksLikeToken_nil] at hl
  cases hl

end AccountDirectory.Lookup
