import AccountDirectory.Proofs.Text.Percent
import AccountDirectory.Settings.Environment
import Mathlib.Data.List.TakeWhile
import Mathlib.Tactic.Ring

/-!
# Quotes, keys and constants in values of variables

The readers of the parts of a value look at what they read and no further: a quoted text ends with
its closing quote (`exists_of_quoted`), and a key with its equals sign (`exists_of_key`), whatever
follows. So what they have read can be cut out and read again in front of something else.

A quoted text is shorter than its quotes and what is in them. Every text can be quoted: if each
character is written by its number, then it is read again (`quoted_flatMap_escaped`).
-/

namespace AccountDirectory.Setting.Variable

open Text.Percent (hexDigit hexValue?_hexDigit)

variable {cs rest text chars : List Char}

/-! ### Spaces -/

/-- There are spaces only. -/
def AreSpaces (cs : List Char) : Prop := ∀ c ∈ cs, isSpace c

theorem exists_spaces (cs : List Char) :
    ∃ before, AreSpaces before ∧ cs = before ++ skipSpace cs := by
  refine ⟨cs.takeWhile isSpace, fun c hc ↦ ?_, List.takeWhile_append_dropWhile.symm⟩
  exact List.all_eq_true.1 List.all_takeWhile c hc

theorem drop_takeWhile (p : Char → Bool) (cs : List Char) :
    cs.drop (cs.takeWhile p).length = cs.dropWhile p := by
  induction cs with
  | nil => rfl
  | cons c cs ih => by_cases hc : p c <;> simp [hc, ih]

theorem not_of_mem_head?_dropWhile {p : Char → Bool} {c : Char}
    (h : c ∈ (cs.dropWhile p).head?) : ¬p c := by
  have hhead := List.head?_dropWhile_not p cs
  rw [Option.mem_def.1 h] at hhead
  exact Bool.not_eq_true _ ▸ hhead

theorem skipSpace_eq_self (h : ∀ c ∈ cs.head?, ¬isSpace c) : skipSpace cs = cs := by
  cases cs with
  | nil => rfl
  | cons c cs => exact List.dropWhile_cons_of_neg (h c rfl)

theorem skipSpace_append (hcs : AreSpaces cs) (hrest : ∀ c ∈ rest.head?, ¬isSpace c) :
    skipSpace (cs ++ rest) = rest := by
  rw [skipSpace, List.dropWhile_append_of_pos hcs]
  exact skipSpace_eq_self hrest

theorem after?_eq_some_iff {word : String} :
    after? word cs = some rest ↔ cs = word.toList ++ rest := by
  rw [after?]
  split
  · next h =>
    obtain ⟨rest', rfl⟩ := List.isPrefixOf_iff_prefix.1 h
    rw [← String.length_toList, List.drop_left, Option.some.injEq, List.append_cancel_left_eq]
  · next h => exact ⟨nofun, fun heq ↦ absurd (List.isPrefixOf_iff_prefix.2 ⟨rest, heq.symm⟩) h⟩

/-! ### Quotes and keys -/

/-- A reader inside quotes closes them, fails, or goes on with at most one character more, and it
decides that by what it has read. -/
theorem quotedFrom_cons_cases (mode : QuoteMode) (c : Char) :
    (∀ cs, quotedFrom mode (c :: cs) = some ([], cs)) ∨
      (∀ cs, quotedFrom mode (c :: cs) = none) ∨
      ∃ next front, front.length ≤ 1 ∧ ∀ cs, quotedFrom mode (c :: cs) =
        (quotedFrom next cs).map fun (chars, rest) ↦ (front ++ chars, rest) := by
  have hskip : ∀ next, ∃ next' front, front.length ≤ 1 ∧ ∀ cs, quotedFrom next cs =
      (quotedFrom next' cs).map fun (chars, rest) ↦ (front ++ chars, rest) :=
    fun next ↦ ⟨next, [], Nat.zero_le _, fun cs ↦ Option.map_id'.symm⟩
  cases mode with
  | content =>
    simp only [quotedFrom]
    split
    · exact .inl fun _ ↦ rfl
    · split
      · exact .inr (.inr (hskip _))
      · split
        · exact .inr (.inr ⟨.content, [c], Nat.le_refl _, fun _ ↦ rfl⟩)
        · exact .inr (.inl fun _ ↦ rfl)
  | escape =>
    simp only [quotedFrom]
    split
    · exact .inr (.inr (hskip _))
    · split
      · exact .inr (.inr (hskip _))
      · split
        · next meant _ => exact .inr (.inr ⟨.content, [meant], Nat.le_refl _, fun _ ↦ rfl⟩)
        · exact .inr (.inl fun _ ↦ rfl)
  | digits left value =>
    simp only [quotedFrom]
    split
    · exact .inr (.inl fun _ ↦ rfl)
    · exact .inr (.inr (hskip _))
    · split
      · exact .inr (.inr ⟨.content, [_], Nat.le_refl _, fun _ ↦ rfl⟩)
      · exact .inr (.inl fun _ ↦ rfl)

/-- What is read inside quotes does not depend on what follows the closing one. -/
theorem exists_of_quotedFrom {mode : QuoteMode} (h : quotedFrom mode cs = some (chars, rest)) :
    ∃ text, cs = text ++ rest ∧ chars.length < text.length ∧
      ∀ tail, quotedFrom mode (text ++ tail) = some (chars, tail) := by
  induction cs generalizing mode chars with
  | nil => cases h
  | cons c cs ih =>
    obtain hcloses | hfails | ⟨next, front, hfront, hgoes⟩ := quotedFrom_cons_cases mode c
    · rw [hcloses] at h
      cases h
      exact ⟨[c], rfl, Nat.zero_lt_one, hcloses⟩
    · rw [hfails] at h
      cases h
    · rw [hgoes] at h
      obtain ⟨⟨later, rest⟩, hlater, hpair⟩ := Option.map_eq_some_iff.1 h
      obtain ⟨rfl, rfl⟩ := Prod.mk.inj hpair
      obtain ⟨text, rfl, hlength, htext⟩ := ih hlater
      refine ⟨c :: text, rfl, ?_, fun tail ↦ ?_⟩
      · rw [List.length_append, List.length_cons]
        omega
      · rw [List.cons_append, hgoes, htext, Option.map_some]

/-- Characters that stand for themselves inside quotes. -/
def isPlain (c : Char) : Bool := isQuotable c && c ≠ '"' && c ≠ '\\'

theorem length_octetsOf_le (n : Nat) (cs : List Char) : (octetsOf n cs).length ≤ cs.length := by
  induction cs generalizing n with
  | nil => simp [octetsOf]
  | cons c cs ih =>
    rw [octetsOf]
    split
    · exact Nat.succ_le_succ (ih _)
    · exact Nat.zero_le _

theorem takeWhile_isPlain {c : Char} (htext : ∀ c ∈ text, isPlain c) (hc : ¬isPlain c) :
    (text ++ c :: rest).takeWhile isPlain = text := by
  rw [List.takeWhile_append_of_pos htext, List.takeWhile_cons_of_neg hc, List.append_nil]

/-- Plain characters up to the closing quote are the text. -/
theorem quoted_closed (htext : ∀ c ∈ text, isPlain c) :
    quoted (text ++ '"' :: rest) = some (text, rest) := by
  have htake : (text ++ '"' :: rest).takeWhile isPlain = text :=
    takeWhile_isPlain htext (by decide)
  unfold isPlain at htake
  rw [quoted]
  simp only [htake, List.drop_left]

/-- Plain characters up to an escape are cut to as many octets as they are characters. -/
theorem quoted_escaped {c : Char} (htext : ∀ c ∈ text, isPlain c) (hc : ¬isPlain c)
    (hquote : c ≠ '"') : quoted (text ++ c :: rest) = (quotedFrom .content (c :: rest)).map
      fun (chars, rest) ↦ (octetsOf text.length text ++ chars, rest) := by
  have htake : (text ++ c :: rest).takeWhile isPlain = text := takeWhile_isPlain htext hc
  unfold isPlain at htake
  rw [quoted]
  simp only [htake, List.drop_left]
  split
  · next heq => exact absurd (List.cons.inj heq).1 hquote
  · rfl

theorem quoted_of_isPlain (htext : ∀ c ∈ text, isPlain c) : quoted text = none := by
  have htake : text.takeWhile isPlain = text := List.takeWhile_eq_self_iff.2 htext
  unfold isPlain at htake
  rw [quoted]
  simp only [htake, List.drop_length]
  rfl

/-- What is read in quotes does not depend on what follows them, and is shorter than they are. -/
theorem exists_of_quoted (h : quoted cs = some (chars, rest)) :
    ∃ text, cs = text ++ rest ∧ chars.length < text.length ∧
      ∀ tail, quoted (text ++ tail) = some (chars, tail) := by
  have hplain : ∀ c ∈ cs.takeWhile isPlain, isPlain c :=
    fun c hc ↦ List.all_eq_true.1 List.all_takeWhile c hc
  rw [← List.takeWhile_append_dropWhile (p := isPlain) (l := cs)] at h ⊢
  generalize cs.takeWhile isPlain = plain at h hplain ⊢
  cases hstopped : cs.dropWhile isPlain with
  | nil =>
    rw [hstopped, List.append_nil, quoted_of_isPlain hplain] at h
    cases h
  | cons c stopped =>
    have hc : ¬isPlain c := not_of_mem_head?_dropWhile (by rw [hstopped]; rfl)
    rw [hstopped] at h
    by_cases hquote : c = '"'
    · subst hquote
      rw [quoted_closed hplain] at h
      obtain ⟨rfl, rfl⟩ := Prod.mk.inj (Option.some.inj h)
      refine ⟨plain ++ ['"'], by simp, by simp, fun tail ↦ ?_⟩
      rw [List.append_assoc, List.singleton_append, quoted_closed hplain]
    · rw [quoted_escaped hplain hc hquote] at h
      obtain ⟨⟨later, rest⟩, hlater, hpair⟩ := Option.map_eq_some_iff.1 h
      obtain ⟨rfl, rfl⟩ := Prod.mk.inj hpair
      obtain ⟨text, htext, hlength, htail⟩ := exists_of_quotedFrom hlater
      have hoctets := length_octetsOf_le plain.length plain
      refine ⟨plain ++ text, by rw [htext, List.append_assoc], ?_, fun tail ↦ ?_⟩
      · rw [List.length_append, List.length_append]
        omega
      · cases text with
        | nil => exact absurd hlength (Nat.not_lt_zero _)
        | cons d text =>
          obtain ⟨rfl, -⟩ := List.cons.inj htext
          rw [List.append_assoc, List.cons_append, quoted_escaped hplain hc hquote,
            ← List.cons_append, htail, Option.map_some]

theorem isSpace_iff {c : Char} :
    isSpace c ↔ c = ' ' ∨ c = '\t' ∨ c = '\n' ∨ c = '\x0c' ∨ c = '\r' := by
  simp [isSpace, or_assoc]

theorem not_isSpace_of_isKeyChar {c : Char} (h : isKeyChar c) : ¬isSpace c := by
  intro hspace
  obtain rfl | rfl | rfl | rfl | rfl := isSpace_iff.1 hspace <;> exact absurd h (by decide)

theorem not_isSpace_of_isSeparator {c : Char} (h : isSeparator c) : ¬isSpace c := by
  intro hspace
  obtain rfl | rfl | rfl | rfl | rfl := isSpace_iff.1 hspace <;> exact absurd h (by decide)

/-- The equals sign behind a key, with spaces before it. -/
theorem skipSpace_equals {spaces : List Char} (h : AreSpaces spaces) :
    skipSpace (spaces ++ '=' :: rest) = '=' :: rest :=
  skipSpace_append h fun c hc ↦ Option.some.inj hc ▸ (by decide)

theorem key_quoted {before spaces : List Char} (hbefore : AreSpaces before)
    (hspaces : AreSpaces spaces) (h : quoted text = some (chars, spaces ++ '=' :: rest)) :
    key (before ++ '"' :: text) = some (String.ofList chars, rest) := by
  have hskip : skipSpace (before ++ '"' :: text) = '"' :: text :=
    skipSpace_append hbefore fun c hc ↦ Option.some.inj hc ▸ (by decide)
  rw [key, hskip]
  simp only [h, Option.bind_eq_bind, Option.bind_some, skipSpace_equals hspaces]

theorem key_word {before name spaces : List Char} (hbefore : AreSpaces before)
    (hspaces : AreSpaces spaces) (hne : name ≠ []) (hname : ∀ c ∈ name, isKeyChar c) :
    key (before ++ (name ++ (spaces ++ '=' :: rest))) = some (String.ofList name, rest) := by
  obtain ⟨d, name, rfl⟩ := List.exists_cons_of_ne_nil hne
  have hd : isKeyChar d := hname d List.mem_cons_self
  have hquote : d ≠ '"' := fun heq ↦ absurd (heq ▸ hd) (by decide)
  have hskip : skipSpace (before ++ (d :: name ++ (spaces ++ '=' :: rest))) =
      d :: name ++ (spaces ++ '=' :: rest) :=
    skipSpace_append hbefore fun c hc ↦ Option.some.inj hc ▸ not_isSpace_of_isKeyChar hd
  have hstop : ∃ c middle, spaces ++ '=' :: rest = c :: middle ∧ ¬isKeyChar c := by
    cases spaces with
    | nil => exact ⟨'=', rest, rfl, by decide⟩
    | cons c spaces =>
      exact ⟨c, _, rfl, fun hkey ↦ not_isSpace_of_isKeyChar hkey (hspaces c List.mem_cons_self)⟩
  have htake : (d :: name ++ (spaces ++ '=' :: rest)).takeWhile isKeyChar = d :: name := by
    obtain ⟨c, middle, hmiddle, hc⟩ := hstop
    rw [hmiddle, List.takeWhile_append_of_pos hname, List.takeWhile_cons_of_neg hc,
      List.append_nil]
  rw [key, hskip]
  split
  · next heq => exact absurd (List.cons.inj heq).1 hquote
  · simp only [htake, List.drop_left, List.isEmpty_cons, Bool.false_eq_true, if_false,
      Option.bind_eq_bind, Option.bind_some, skipSpace_equals hspaces]

/-- What is read as a key does not depend on what follows the equals sign. -/
theorem exists_of_key {name : String} (h : key cs = some (name, rest)) :
    ∃ text, cs = text ++ rest ∧ text ≠ [] ∧ ∀ tail, key (text ++ tail) = some (name, tail) := by
  obtain ⟨before, hbefore, hcs⟩ := exists_spaces cs
  rw [key] at h
  split at h
  · next r hquote =>
    obtain ⟨⟨chars, middle⟩, hread, hequals⟩ := Option.bind_eq_some_iff.1 h
    obtain ⟨spaces, hspaces, hmiddle⟩ := exists_spaces middle
    obtain ⟨text, rfl, -, htext⟩ := exists_of_quoted hread
    dsimp only at hequals
    split at hequals
    · next r hsign =>
      obtain ⟨rfl, rfl⟩ := Prod.mk.inj (Option.some.inj hequals)
      refine ⟨before ++ '"' :: (text ++ (spaces ++ ['='])), ?_, by simp, fun tail ↦ ?_⟩
      · rw [hcs, hquote, hmiddle, hsign]
        simp
      · have hkey : key (before ++ '"' :: (text ++ (spaces ++ '=' :: tail))) =
            some (String.ofList chars, tail) := key_quoted hbefore hspaces (htext _)
        simpa using hkey
    · cases hequals
  · dsimp only at h
    split at h
    · cases h
    · next hne =>
      obtain ⟨⟨chars, middle⟩, hread, hequals⟩ := Option.bind_eq_some_iff.1 h
      obtain ⟨rfl, rfl⟩ := Prod.mk.inj (Option.some.inj hread)
      dsimp only at hequals
      split at hequals
      · next r hsign =>
        obtain ⟨rfl, rfl⟩ := Prod.mk.inj (Option.some.inj hequals)
        have hword : ∀ c ∈ (skipSpace cs).takeWhile isKeyChar, isKeyChar c :=
          fun c hc ↦ List.all_eq_true.1 List.all_takeWhile c hc
        rw [List.isEmpty_iff] at hne
        rw [drop_takeWhile] at hsign
        obtain ⟨spaces, hspaces, hmiddle⟩ := exists_spaces ((skipSpace cs).dropWhile isKeyChar)
        refine ⟨before ++ ((skipSpace cs).takeWhile isKeyChar ++ (spaces ++ ['='])), ?_, by simp,
          fun tail ↦ ?_⟩
        · have hparts := List.takeWhile_append_dropWhile (p := isKeyChar) (l := skipSpace cs)
          rw [hmiddle, hsign] at hparts
          rw [List.append_assoc, List.append_assoc, List.append_assoc, List.singleton_append,
            hparts, ← hcs]
        · have hkey : key (before ++
              ((skipSpace cs).takeWhile isKeyChar ++ (spaces ++ '=' :: tail))) =
              some (String.ofList ((skipSpace cs).takeWhile isKeyChar), tail) :=
            key_word hbefore hspaces hne hword
          simpa using hkey
      · cases hequals

/-! ### Texts in quotes -/

/-- So many digits of a number in base sixteen, the last ones. -/
def hexDigits : Nat → Nat → List Char
  | 0, _ => []
  | count + 1, n => hexDigit (n / 16 ^ count % 16) :: hexDigits count n

/-- A character by its number. -/
def escaped (c : Char) : List Char := '\\' :: 'U' :: hexDigits 8 c.toNat

/-- A text in quotes, with all of its characters by their numbers. -/
def inQuotes (text : String) : String :=
  String.ofList ('"' :: (text.toList.flatMap escaped ++ ['"']))

theorem quotedFrom_hexDigits (count value n : Nat) (cs : List Char) :
    quotedFrom (.digits count value) (hexDigits (count + 1) n ++ cs) =
      if (value * 16 ^ (count + 1) + n % 16 ^ (count + 1)).isValidChar then
        (quotedFrom .content cs).map fun (chars, rest) ↦
          (Char.ofNat (value * 16 ^ (count + 1) + n % 16 ^ (count + 1)) :: chars, rest)
      else none := by
  have hdigit : ∀ k, Digits.hexValue? (hexDigit (n / 16 ^ k % 16)) = some (n / 16 ^ k % 16) :=
    fun k ↦ hexValue?_hexDigit (Nat.mod_lt _ (by decide))
  induction count generalizing value with
  | zero =>
    have hlast := hdigit 0
    rw [Nat.pow_zero, Nat.div_one] at hlast
    have hdigits : hexDigits 1 n ++ cs = hexDigit (n % 16) :: cs := by
      rw [hexDigits, Nat.pow_zero, Nat.div_one]
      rfl
    simp only [hdigits, quotedFrom, hlast, Nat.zero_add, Nat.pow_one]
  | succ count ih =>
    have hvalue : (value * 16 + n / 16 ^ (count + 1) % 16) * 16 ^ (count + 1) +
        n % 16 ^ (count + 1) = value * 16 ^ (count + 2) + n % 16 ^ (count + 2) := by
      rw [Nat.mod_pow_succ (k := count + 1)]
      ring
    rw [hexDigits, List.cons_append]
    simp only [quotedFrom, hdigit]
    rw [ih, hvalue]

/-- A character by its number is read as the character. -/
theorem quotedFrom_escaped (c : Char) (cs : List Char) : quotedFrom .content (escaped c ++ cs) =
    (quotedFrom .content cs).map fun (chars, rest) ↦ (c :: chars, rest) := by
  have hmod : c.toNat % 16 ^ 8 = c.toNat :=
    Nat.mod_eq_of_lt (Nat.lt_of_lt_of_le c.val.toNat_lt (by decide))
  have hvalid : (0 * 16 ^ 8 + c.toNat % 16 ^ 8).isValidChar := by
    rw [Nat.zero_mul, Nat.zero_add, hmod]
    exact c.valid
  have hdigits := quotedFrom_hexDigits 7 0 c.toNat cs
  rw [if_pos hvalid, Nat.zero_mul, Nat.zero_add, hmod, Char.ofNat_toNat] at hdigits
  exact hdigits

theorem quotedFrom_flatMap_escaped (cs : List Char) :
    quotedFrom .content (cs.flatMap escaped ++ ['"']) = some (cs, []) := by
  induction cs with
  | nil => rfl
  | cons c cs ih =>
    rw [List.flatMap_cons, List.append_assoc, quotedFrom_escaped, ih, Option.map_some]

/-- **Every text can be quoted.** -/
theorem quoted_flatMap_escaped (cs : List Char) :
    quoted (cs.flatMap escaped ++ ['"']) = some (cs, []) := by
  cases cs with
  | nil => rfl
  | cons c cs =>
    have hread := quotedFrom_flatMap_escaped (c :: cs)
    have hquoted : quoted ([] ++ ((c :: cs).flatMap escaped ++ ['"'])) = _ :=
      quoted_escaped nofun (by decide : ¬isPlain '\\') (by decide)
    rw [List.nil_append] at hquoted
    rw [hquoted]
    exact congrArg (Option.map _) hread

end AccountDirectory.Setting.Variable
