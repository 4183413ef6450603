import AccountDirectory.Token.Header

/-!
# Cutting a token into segments

A token is cut at its last two dots. `Segments.ofChars?_eq_some_iff` states what that means for the
characters: the three segments with dots between them are the token, and the later two have no dot.

The first segment may have dots as far as the cut is concerned; it is the base-64 form of a segment
that rules them out.
-/

namespace AccountDirectory.Token

/-- **The last separator.** What is after the cut has no separator. -/
theorem splitLast?_eq_some_iff {separator : Char} {cs before after : List Char} :
    splitLast? separator cs = some (before, after) ↔
      cs = before ++ separator :: after ∧ separator ∉ after := by
  rw [splitLast?]
  constructor
  · -- read backwards, the cut is at the first separator
    intro h
    have hcut := List.takeWhile_append_dropWhile (p := (· ≠ separator)) (l := cs.reverse)
    cases hd : cs.reverse.dropWhile (· ≠ separator) with
    | nil =>
      rw [hd] at h
      cases h
    | cons c rest =>
      rw [hd] at h hcut
      obtain ⟨rfl, rfl⟩ := Prod.mk.inj (Option.some.inj h)
      have hc : c = separator := by
        have hne := List.head_dropWhile_not (· ≠ separator) (hd ▸ List.cons_ne_nil c rest)
        simp only [hd, List.head_cons] at hne
        simpa using hne
      subst hc
      constructor
      · have hrev := congrArg List.reverse hcut
        rw [List.reverse_append, List.reverse_cons, List.reverse_reverse] at hrev
        exact hrev.symm.trans (List.append_assoc ..)
      · intro hm
        have hc := List.all_eq_true.1 List.all_takeWhile c (List.mem_reverse.1 hm)
        simp at hc
  · rintro ⟨rfl, hn⟩
    have hall : ∀ c ∈ after.reverse, decide (c ≠ separator) = true := by
      intro c hc
      exact decide_eq_true fun h ↦ hn (h ▸ List.mem_reverse.1 hc)
    have hrev : (before ++ separator :: after).reverse =
        after.reverse ++ separator :: before.reverse := by simp
    rw [hrev, List.dropWhile_append_of_pos hall, List.takeWhile_append_of_pos hall,
      List.dropWhile_cons_of_neg (by simp), List.takeWhile_cons_of_neg (by simp)]
    simp

/-- **The three segments** of a token. -/
theorem Segments.ofChars?_eq_some_iff {cs : List Char} {s : Segments} :
    Segments.ofChars? cs = some s ↔
      cs = s.header ++ '.' :: (s.payload ++ '.' :: s.signature) ∧
        '.' ∉ s.payload ∧ '.' ∉ s.signature := by
  rw [ofChars?]
  constructor
  · intro h
    obtain ⟨⟨message, signature⟩, hm, h⟩ := Option.bind_eq_some_iff.1 h
    obtain ⟨⟨header, payload⟩, hp, h⟩ := Option.bind_eq_some_iff.1 h
    obtain rfl := Option.some.inj h
    obtain ⟨rfl, hsig⟩ := splitLast?_eq_some_iff.1 hm
    obtain ⟨rfl, hpay⟩ := splitLast?_eq_some_iff.1 hp
    exact ⟨by simp, hpay, hsig⟩
  · rintro ⟨rfl, hpay, hsig⟩
    have hm : splitLast? '.' (s.header ++ '.' :: (s.payload ++ '.' :: s.signature)) =
        some (s.header ++ '.' :: s.payload, s.signature) :=
      splitLast?_eq_some_iff.2 ⟨by simp, hsig⟩
    rw [hm]
    show (splitLast? '.' (s.header ++ '.' :: s.payload)).bind _ = some s
    rw [splitLast?_eq_some_iff.2 ⟨rfl, hpay⟩]
    rfl

end AccountDirectory.Token
