import AccountDirectory.Http.Url.Parser
import AccountDirectory.Proofs.Text.Blank
import AccountDirectory.Proofs.Text.Percent

/-!
# Addresses under an origin

An **origin** is the beginning of an address on the web: the name of a scheme and the text of an
authority, and nothing behind it. `parse?_under_origin` says what becomes of an address that is made
of an origin and a path of plain segments: the authority is read by itself, the path is resolved by
itself, and there is no query and no fragment. So what is put into the path of such an address can
change the path only. A query behind the path is kept as it is written, if it is made of plain
characters and of the marks between its pairs (`parse?_under_origin_query`).

The proof goes through the reader from the outside to the inside: nothing is dropped
(`IsOrigin.cleaned_append`), the scheme is cut off (`splitScheme_web`), no `#` is found and no `?`
but the one before the query (`cutBefore_of_forall`, `cutBefore_append_cons`), and the first slash
ends the authority (`hierarchy?_web`).
-/

namespace AccountDirectory.Http

open Text.Percent (IsPlain isUnreserved)

/-- A scheme of the web. -/
def Scheme.IsWeb (scheme : Scheme) : Prop := scheme = .http ∨ scheme = .https

/-- **The text is an origin**: the name of a scheme of the web, in letters of either size, and the
text of an authority. -/
structure IsOrigin (scheme : Scheme) (authority : List Char) (s : String) : Prop where
  web : scheme.IsWeb
  spelled : ∃ name, Text.asciiLower name = scheme.name.toList ∧
    s.toList = name ++ ':' :: '/' :: '/' :: authority
  nonempty : authority ≠ []
  fits : ∀ c ∈ authority, c ∉ ['/', '\\', '?', '#', '\t', '\n', '\r']

/-- **A path of plain segments**, each with a slash before it. -/
structure IsPlainPath (path : List Char) : Prop where
  rooted : path.head? = some '/'
  plain : ∀ c ∈ path, IsPlain c ∨ c = '/'

variable {scheme : Scheme} {authority path : List Char} {s : String} {c : Char}

theorem IsPlainPath.ne (h : IsPlainPath path) (hc : c ∈ path) {x : Char}
    (hx : isUnreserved x = false) (hx' : x ≠ '%') (hslash : '/' ≠ x) : c ≠ x := by
  rcases h.plain c hc with hplain | rfl
  · exact hplain.ne hx hx'
  · exact hslash

theorem IsPlainPath.toNat (h : IsPlainPath path) (hc : c ∈ path) : 0x20 < c.toNat := by
  rcases h.plain c hc with hplain | rfl
  · exact Nat.lt_of_lt_of_le (by decide) hplain.toNat.1
  · decide

theorem IsPlainPath.isSlash_iff (h : IsPlainPath path) (hc : c ∈ path) :
    isSlash scheme c ↔ c = '/' := by
  have hback : c ≠ '\\' := h.ne hc (by decide) (by decide) (by decide)
  simp [isSlash, hback]

/-- What a query is made of: plain characters, and the marks in a pair and between pairs. -/
def IsQueryChar (c : Char) : Prop := IsPlain c ∨ c ∈ [':', '=', '&']

theorem IsQueryChar.toNat (h : IsQueryChar c) : 0x25 ≤ c.toNat ∧ c.toNat ≤ 0x7E := by
  have hmarks : [':', '=', '&'].all fun c ↦ 0x25 ≤ c.toNat && c.toNat ≤ 0x7E := by decide
  rcases h with h | h
  · exact h.toNat
  · simpa using List.all_eq_true.1 hmarks c h

theorem IsQueryChar.ne (h : IsQueryChar c) {x : Char} (hx : isUnreserved x = false)
    (hx' : x ∉ ['%', ':', '=', '&']) : c ≠ x := by
  rintro rfl
  rcases h with h | h
  · exact h.ne hx (fun hpercent ↦ hx' (hpercent ▸ List.mem_cons_self)) rfl
  · exact hx' (List.mem_cons_of_mem _ h)

/-- Nothing in a query has to be escaped. -/
theorem escape_query {query : List Char} (h : ∀ c ∈ query, IsQueryChar c) :
    Text.Percent.escape (queryEscapes scheme) query = query := by
  have hescapes : ∀ x ∈ queryEscapes scheme, isUnreserved x = false ∧ x ∉ ['%', ':', '=', '&'] := by
    rw [queryEscapes, ← List.forall_iff_forall_mem]
    split_ifs <;> decide
  refine Text.Percent.escape_eq_self fun c hc ↦ ?_
  obtain ⟨hleast, hgreatest⟩ := (h c hc).toNat
  refine ⟨Nat.le_trans (by decide) hleast, hgreatest, fun hmem ↦ ?_⟩
  exact (h c hc).ne (hescapes c hmem).1 (hescapes c hmem).2 rfl

/-! ### What is dropped -/

/-- Nothing is dropped of a text whose ends are no blanks and that has no tabs and line breaks. -/
theorem Url.cleaned_eq (hfirst : ∀ c ∈ s.toList.head?, 0x20 < c.toNat)
    (hlast : ∀ c ∈ s.toList.getLast?, 0x20 < c.toNat)
    (hkept : ∀ c ∈ s.toList, c ∉ ['\t', '\n', '\r']) : cleaned s = s.toList := by
  have hleft : s.toList.dropWhile (fun c ↦ decide (c.toNat ≤ 0x20)) = s.toList :=
    List.dropWhile_eq_self_iff.2 fun h ↦ by
      simpa using hfirst _ (by rw [List.head?_eq_getElem?, List.getElem?_eq_getElem h]; rfl)
  have hright : s.toList.rdropWhile (fun c ↦ decide (c.toNat ≤ 0x20)) = s.toList :=
    List.rdropWhile_eq_self_iff.2 fun h ↦ by
      simpa using hlast _ (List.getLast?_eq_some_getLast h)
  rw [List.rdropWhile] at hright
  rw [cleaned]
  dsimp only
  rw [hleft, hright, List.filter_eq_self]
  intro c hc
  simpa [and_assoc] using hkept c hc

/-! ### The scheme -/

/-- The name of a scheme of the web is made of letters. -/
theorem Scheme.IsWeb.isAlpha (h : scheme.IsWeb) {name : List Char}
    (hname : Text.asciiLower name = scheme.name.toList) (hc : c ∈ name) : c.isAlpha := by
  have hletters : scheme.name.toList.all Char.isAlpha := by
    rcases h with rfl | rfl <;> decide
  have hx : c.toLower ∈ scheme.name.toList := hname ▸ List.mem_map_of_mem hc
  obtain hself | ⟨hupper, -⟩ := Text.eq_or_isUpper_of_toLower_eq (c := c) rfl
  · exact hself ▸ List.all_eq_true.1 hletters _ hx
  · show (c.isUpper || c.isLower) = true
    rw [hupper, Bool.true_or]

theorem Scheme.IsWeb.isPlain (h : scheme.IsWeb) {name : List Char}
    (hname : Text.asciiLower name = scheme.name.toList) (hc : c ∈ name) : IsPlain c := by
  refine .inl ?_
  rw [isUnreserved, Char.isAlphanum, h.isAlpha hname hc]
  rfl

theorem Scheme.IsWeb.ofName_name (h : scheme.IsWeb) : ofName scheme.name = scheme := by
  rcases h with rfl | rfl <;> rfl

theorem Scheme.IsWeb.isOther_eq (h : scheme.IsWeb) : scheme.isOther = false := by
  rcases h with rfl | rfl <;> rfl

theorem Url.splitScheme_web (h : scheme.IsWeb) {name : List Char}
    (hname : Text.asciiLower name = scheme.name.toList) (rest : List Char) :
    splitScheme (name ++ ':' :: rest) = some (scheme, rest) := by
  have hletters : ∀ c ∈ name, c.isAlpha := fun c hc ↦ h.isAlpha hname hc
  cases name with
  | nil => rcases h with rfl | rfl <;> cases hname
  | cons first more =>
    have hmore : ∀ c ∈ more, (c.isAlphanum || c == '+' || c == '-' || c == '.') = true := by
      intro c hc
      rw [Char.isAlphanum, hletters c (List.mem_cons_of_mem _ hc)]
      rfl
    -- the colon is no character of a name, and so it ends the name
    have hdrop := @List.dropWhile_append_of_pos _ _ _ (':' :: rest) hmore
    have htake := @List.takeWhile_append_of_pos _ _ _ (':' :: rest) hmore
    rw [List.dropWhile_cons_of_neg (by decide)] at hdrop
    rw [List.takeWhile_cons_of_neg (by decide), List.append_nil] at htake
    rw [List.cons_append, splitScheme, if_pos (hletters first List.mem_cons_self)]
    simp only [hdrop, htake]
    rw [hname, String.ofList_toList, h.ofName_name]

/-! ### The cuts -/

/-- A text is not cut before a character that it does not hold. -/
theorem cutBefore_of_forall {p : Char → Bool} {cs : List Char} (h : ∀ c ∈ cs, p c = false) :
    cutBefore p cs = (cs, []) := by
  rw [cutBefore, List.takeWhile_eq_self_iff.2 (by simpa using h),
    List.dropWhile_eq_nil_iff.2 (by simpa using h)]

theorem cutBefore_append_cons {p : Char → Bool} {cs rest : List Char} (h : ∀ c ∈ cs, p c = false)
    (hc : p c = true) : cutBefore p (cs ++ c :: rest) = (cs, c :: rest) := by
  have hcs : ∀ c ∈ cs, (!p c) = true := by simpa using h
  rw [cutBefore, List.takeWhile_append_of_pos hcs, List.dropWhile_append_of_pos hcs]
  simp [hc]

/-- A character of an authority does not end it. -/
theorem IsOrigin.isSlash_eq (h : IsOrigin scheme authority s) (hc : c ∈ authority) :
    isSlash scheme c = false := by
  have hfits := h.fits c hc
  simp only [List.mem_cons, not_or] at hfits
  simp [isSlash, hfits.1, hfits.2.1]

/-! ### What is left of an authority -/

/-- The text of the port number is the end of the text. -/
theorem splitPort_suffix {bracket : Bool} {cs digits : List Char}
    (h : (splitPort bracket cs).2 = some digits) : digits <:+ cs := by
  induction cs generalizing bracket with
  | nil => cases h
  | cons c cs ih =>
    rw [splitPort] at h
    split_ifs at h
    · obtain rfl := Option.some.inj h
      exact List.suffix_cons c _
    all_goals exact (ih h).trans (List.suffix_cons c cs)

theorem splitUser_suffix (cs : List Char) : (splitUser cs).2 <:+ cs := by
  have hrest : (cs.reverse.takeWhile (· ≠ '@')).reverse <:+ cs := by
    rw [← List.reverse_prefix, List.reverse_reverse]
    exact List.takeWhile_prefix _
  rw [splitUser]
  split_ifs
  · exact List.suffix_rfl
  · exact hrest

/-- Behind a port number nothing is left but what a backslash opens. -/
theorem eq_nil_of_portNumber? {cs rest : List Char} {n : Option Nat}
    (h : portNumber? scheme cs = some (n, rest)) (hcs : '\\' ∉ cs) : rest = [] := by
  rw [portNumber?] at h
  dsimp only at h
  rw [ite_eq_iff, or_iff_right (by simp)] at h
  obtain ⟨hlimit, h⟩ := h
  obtain ⟨-, rfl⟩ := Prod.mk.inj (Option.some.inj h)
  simp only [Bool.or_eq_true, not_or] at hlimit
  have hmem : ∀ c ∈ (cutBefore (!·.isDigit) cs).2, c ∈ cs := fun c hc ↦
    (List.dropWhile_sublist _).subset hc
  cases hrest : (cutBefore (!·.isDigit) cs).2 with
  | nil => rfl
  | cons c after =>
    rw [hrest] at hlimit hmem
    have hback : c = '\\' := by simpa using hlimit.2
    exact absurd (hback ▸ hmem c List.mem_cons_self) hcs

/-- Nothing of an authority without backslashes belongs to the path. -/
theorem eq_nil_of_authority? {cs rest : List Char} {a : Authority}
    (h : authority? scheme cs = some (a, rest)) (hcs : '\\' ∉ cs) : rest = [] := by
  have hport : ∀ {n}, (splitPort false (splitUser cs).2).2.elim (some (none, []))
      (portNumber? scheme) = some (n, rest) → rest = [] := by
    intro n hn
    cases hdigits : (splitPort false (splitUser cs).2).2 with
    | none =>
      rw [hdigits] at hn
      cases hn
      rfl
    | some digits =>
      rw [hdigits] at hn
      have hsuffix := (splitPort_suffix hdigits).trans (splitUser_suffix cs)
      exact eq_nil_of_portNumber? hn fun hmem ↦ hcs (hsuffix.subset hmem)
  rw [authority?] at h
  dsimp only at h
  split_ifs at h
  · -- no host, and so no port number
    obtain ⟨-, -, h⟩ := Option.bind_eq_some_iff.1 h
    exact (Prod.mk.inj (Option.some.inj h)).2.symm
  all_goals
    obtain ⟨host, -, h⟩ := Option.bind_eq_some_iff.1 h
    obtain ⟨⟨n, leftover⟩, hn, h⟩ := Option.bind_eq_some_iff.1 h
    obtain ⟨-, rfl⟩ := Prod.mk.inj (Option.some.inj h)
    exact hport hn

/-! ### The whole address -/

/-- What does not stand in an origin. -/
theorem IsOrigin.not_mem (h : IsOrigin scheme authority s) {x : Char}
    (hx : x ∈ ['?', '#', '\t', '\n', '\r']) : x ∉ s.toList := by
  obtain ⟨name, hname, hs⟩ := h.spelled
  have hplain : isUnreserved x = false ∧ x ≠ '%' ∧ '/' ≠ x ∧ ':' ≠ x := by
    simp only [List.mem_cons, List.not_mem_nil, or_false] at hx
    rcases hx with rfl | rfl | rfl | rfl | rfl <;> decide
  rw [hs]
  intro hmem
  -- the name, the colon, the two slashes and the authority
  simp only [List.mem_append, List.mem_cons] at hmem
  rcases hmem with hmem | rfl | rfl | rfl | hmem
  · exact (h.web.isPlain hname hmem).ne hplain.1 hplain.2.1 rfl
  · exact hplain.2.2.2 rfl
  · exact hplain.2.2.1 rfl
  · exact hplain.2.2.1 rfl
  · exact h.fits x hmem (List.mem_cons_of_mem _ (List.mem_cons_of_mem _ hx))

/-- An address under an origin is read as it is written. -/
theorem IsOrigin.cleaned_append (h : IsOrigin scheme authority s) {rest : List Char}
    (hne : rest ≠ []) (hrest : ∀ c ∈ rest, 0x20 < c.toNat) :
    Url.cleaned (s ++ String.ofList rest) = s.toList ++ rest := by
  obtain ⟨name, hname, hs⟩ := h.spelled
  have htext : (s ++ String.ofList rest).toList = s.toList ++ rest := by
    rw [String.toList_append, String.toList_ofList]
  rw [Url.cleaned_eq, htext]
  · rw [htext, hs]
    cases name with
    | nil =>
      rintro c ⟨⟩
      decide
    | cons first more =>
      rintro c ⟨⟩
      exact Nat.lt_of_lt_of_le (by decide) (h.web.isPlain hname List.mem_cons_self).toNat.1
  · intro c hc
    rw [htext, List.getLast?_append, List.getLast?_eq_some_getLast hne] at hc
    cases hc
    exact hrest _ (List.getLast_mem hne)
  · intro c hc hdropped
    rw [htext] at hc
    rcases List.mem_append.1 hc with hc | hc
    · exact h.not_mem (List.mem_cons_of_mem _ (List.mem_cons_of_mem _ hdropped)) hc
    · have hlow : ['\t', '\n', '\r'].all fun c ↦ c.toNat ≤ 0x20 := by decide
      have hle : c.toNat ≤ 0x20 := by simpa using List.all_eq_true.1 hlow c hdropped
      exact Nat.not_lt.2 hle (hrest c hc)

/-- All slashes behind the colon open the authority. -/
theorem Url.place?_web (h : scheme.IsWeb) (cs : List Char) :
    place? scheme cs =
      (hierarchy? scheme (cs.dropWhile (isSlash scheme))).map fun (a, path) ↦ (some a, path) := by
  rcases h with rfl | rfl <;> simp [place?]

/-- The first slash behind an authority ends it and begins the path. -/
theorem Url.hierarchy?_web (h : IsOrigin scheme authority s) (hpath : IsPlainPath path) :
    hierarchy? scheme (authority ++ path) =
      (authority? scheme authority).map fun (a, _) ↦ (a, pathOf (resolved scheme path)) := by
  obtain ⟨rest, rfl⟩ := List.head?_eq_some_iff.1 hpath.rooted
  have hslash : isSlash scheme '/' = true := rfl
  have hcut : cutBefore (isSlash scheme) (authority ++ '/' :: rest) = (authority, '/' :: rest) :=
    cutBefore_append_cons (fun c hc ↦ h.isSlash_eq hc) hslash
  rw [hierarchy?]
  simp only [hcut, h.web.isOther_eq, Bool.false_and]
  cases ha : authority? scheme authority with
  | none => rfl
  | some read =>
    obtain ⟨a, leftover⟩ := read
    obtain rfl := eq_nil_of_authority? ha fun hmem ↦ by simpa using h.fits _ hmem
    rfl

/-- Neither mark stands between the scheme and the end of the path. -/
theorem IsOrigin.ne_mark (h : IsOrigin scheme authority s) (hpath : IsPlainPath path) {x : Char}
    (hx : x ∈ ['?', '#']) (hc : c ∈ '/' :: '/' :: (authority ++ path)) : (c == x) = false := by
  have hplain : isUnreserved x = false ∧ x ≠ '%' ∧ '/' ≠ x := by
    simp only [List.mem_cons, List.not_mem_nil, or_false] at hx
    rcases hx with rfl | rfl <;> decide
  refine beq_eq_false_iff_ne.2 ?_
  simp only [List.mem_cons, List.mem_append] at hc
  rcases hc with rfl | rfl | hc | hc
  · exact hplain.2.2
  · exact hplain.2.2
  · rintro rfl
    refine h.fits c hc ?_
    simp only [List.mem_cons, List.not_mem_nil, or_false] at hx ⊢
    rcases hx with rfl | rfl <;> simp
  · exact hpath.ne hc hplain.1 hplain.2.1 hplain.2.2

/-- The place of an address under an origin, whatever stands behind its path. -/
theorem Url.place?_under_origin (h : IsOrigin scheme authority s) (hpath : IsPlainPath path) :
    place? scheme ('/' :: '/' :: (authority ++ path)) =
      (authority? scheme authority).map fun (a, _) ↦
        (some a, pathOf (resolved scheme path)) := by
  have hopening : ('/' :: '/' :: (authority ++ path)).dropWhile (isSlash scheme) =
      authority ++ path := by
    obtain ⟨first, more, rfl⟩ := List.exists_cons_of_ne_nil h.nonempty
    have hfirst : isSlash scheme first = false := h.isSlash_eq List.mem_cons_self
    have hslash : isSlash scheme '/' = true := rfl
    simp [hfirst, hslash]
  rw [place?_web h.web, hopening, hierarchy?_web h hpath, Option.map_map]
  rfl

/-- A query behind a path, with the mark before it. -/
def marked (query : Option (List Char)) : List Char := query.elim [] ('?' :: ·)

/-- **An address under an origin**, with or without a query. -/
theorem Url.parse?_marked (h : IsOrigin scheme authority s) (hpath : IsPlainPath path)
    (query : Option (List Char)) (hquery : ∀ q, query = some q → ∀ c ∈ q, IsQueryChar c) :
    parse? (s ++ String.ofList (path ++ marked query)) =
      (authority? scheme authority).map fun (a, _) ↦
        ⟨scheme, some a, pathOf (resolved scheme path), query.map String.ofList, none⟩ := by
  obtain ⟨name, hname, hs⟩ := h.spelled
  have htext : s.toList ++ (path ++ marked query) =
      name ++ ':' :: ('/' :: '/' :: (authority ++ path) ++ marked query) := by
    rw [hs]
    simp
  have hmarked : ∀ c ∈ marked query, c = '?' ∨ IsQueryChar c := by
    cases query with
    | none => nofun
    | some q =>
      intro c hc
      exact (List.mem_cons.1 hc).imp_right (hquery q rfl c)
  have hvisible : ∀ c ∈ path ++ marked query, 0x20 < c.toNat := by
    intro c hc
    rcases List.mem_append.1 hc with hc | hc
    · exact hpath.toNat hc
    · rcases hmarked c hc with rfl | hc
      · decide
      · exact Nat.lt_of_lt_of_le (by decide) hc.toNat.1
  have hne : path ++ marked query ≠ [] := by
    obtain ⟨rest, hrest⟩ := List.head?_eq_some_iff.1 hpath.rooted
    simp [hrest]
  -- no fragment is cut off, and the query is cut off at its mark
  have hfragment : ∀ c ∈ '/' :: '/' :: (authority ++ path) ++ marked query,
      (c == '#') = false := by
    intro c hc
    rcases List.mem_append.1 hc with hc | hc
    · exact h.ne_mark hpath (by decide) hc
    · rcases hmarked c hc with rfl | hc
      · rfl
      · exact beq_eq_false_iff_ne.2 (hc.ne (by decide) (by decide))
  have hplace : ∀ c ∈ '/' :: '/' :: (authority ++ path), (c == '?') = false :=
    fun c hc ↦ h.ne_mark hpath (by decide) hc
  have hcut : cutBefore (· == '?') ('/' :: '/' :: (authority ++ path) ++ marked query) =
      ('/' :: '/' :: (authority ++ path), marked query) := by
    cases query with
    | none => rw [marked, Option.elim_none, List.append_nil, cutBefore_of_forall hplace]
    | some q => exact cutBefore_append_cons hplace rfl
  rw [parse?, h.cleaned_append hne hvisible, htext, splitScheme_web h.web hname]
  simp only [cutBefore_of_forall hfragment, hcut, place?_under_origin h hpath,
    Option.bind_eq_bind, Option.bind_some]
  cases authority? scheme authority with
  | none => rfl
  | some read =>
    cases query with
    | none => rfl
    | some q => simp [marked, escape_query (hquery q rfl)]

/-- **An address under an origin.** Its authority is that of the origin, its path is that of the
segments, and it has no query and no fragment. -/
theorem Url.parse?_under_origin (h : IsOrigin scheme authority s) (hpath : IsPlainPath path) :
    parse? (s ++ String.ofList path) =
      (authority? scheme authority).map fun (a, _) ↦
        ⟨scheme, some a, pathOf (resolved scheme path), none, none⟩ := by
  have hparse := parse?_marked h hpath none nofun
  rwa [marked, Option.elim_none, List.append_nil] at hparse

/-- **An address under an origin with a query**, which is kept as it is written. -/
theorem Url.parse?_under_origin_query (h : IsOrigin scheme authority s) (hpath : IsPlainPath path)
    {query : List Char} (hquery : ∀ c ∈ query, IsQueryChar c) :
    parse? (s ++ String.ofList (path ++ '?' :: query)) =
      (authority? scheme authority).map fun (a, _) ↦
        ⟨scheme, some a, pathOf (resolved scheme path), some (String.ofList query), none⟩ := by
  refine parse?_marked h hpath (some query) ?_
  rintro q ⟨⟩
  exact hquery

end AccountDirectory.Http
