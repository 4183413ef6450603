import AccountDirectory.Json.Printer
import AccountDirectory.Proofs.Text.Blank
import Mathlib.Tactic.SplitIfs

/-!
# Scanning what was written

`Scans text tokens` says that a written form is cut into these tokens wherever it stands. A word and a
number go on for as long as their characters do, so what follows them has to end them (`Ends`). What
follows inside a container does: it is a comma, a blank or a closing bracket.

**Closure.** Words, numbers and strings scan to their one token (`Scans.word`, `Scans.number`,
`Scans.string`); a container scans if its items do, with any blanks after a bracket or a comma
(`Scans.enclosed`, `Continues.item`). Both layouts are put together from these alone.
-/

namespace AccountDirectory.Json

namespace Token

variable {text more rest blank : List Char} {t : Token} {k ks : List Token}

/-! ### Steps -/

theorem scanFrom_cons_eq_bind (mode : Mode) (c : Char) (rest : List Char) :
    scanFrom mode (c :: rest) =
      (step mode c).bind fun next ↦ (scanFrom next.2 rest).map (next.1 ++ ·) := by
  simp only [scanFrom, Option.bind_eq_bind, Option.map_eq_bind, Function.comp_def]

/-- One character. -/
theorem scanFrom_cons {mode mode' : Mode} {c : Char} (h : step mode c = some (k, mode'))
    (rest : List Char) : scanFrom mode (c :: rest) = (scanFrom mode' rest).map (k ++ ·) := by
  rw [scanFrom_cons_eq_bind, h, Option.bind_some]

/-- One character that completes no token. -/
theorem scanFrom_cons_of_nil {mode mode' : Mode} {c : Char} (h : step mode c = some ([], mode'))
    (rest : List Char) : scanFrom mode (c :: rest) = scanFrom mode' rest := by
  rw [scanFrom_cons h]
  exact Option.map_id_apply

/-- One character that is a token by itself. -/
theorem scanFrom_cons_of_enter {c : Char} (h : enter c = some (some t, .between))
    (rest : List Char) :
    scanFrom .between (c :: rest) = (scanFrom .between rest).map (t :: ·) :=
  scanFrom_cons (k := [t]) (by rw [step, h]; rfl) rest

/-- Characters that are gathered. -/
theorem scanFrom_append_of_step (mode : List Char → Mode)
    (h : ∀ c ∈ text, ∀ before, step (mode before) c = some ([], mode (c :: before)))
    (before : List Char) :
    scanFrom (mode before) (text ++ rest) = scanFrom (mode (text.reverse ++ before)) rest := by
  induction text generalizing before with
  | nil => rfl
  | cons c text ih =>
    obtain ⟨hc, htext⟩ := List.forall_mem_cons.1 h
    rw [List.cons_append, scanFrom_cons_of_nil (hc before), ih htext, List.reverse_cons,
      List.append_assoc, List.singleton_append]

/-- Blanks between tokens. -/
theorem scanFrom_blank (h : blank.all isSpace) (rest : List Char) :
    scanFrom .between (blank ++ rest) = scanFrom .between rest := by
  refine scanFrom_append_of_step (fun _ ↦ .between) (fun c hc _ ↦ ?_) []
  rw [step, enter, if_pos (List.all_eq_true.1 h c hc)]
  rfl

/-- A character that sets itself apart from blanks and punctuation begins a number, a word or
nothing. -/
theorem enter_of_apart {c : Char} (p : Char → Bool) (hc : p c) (hspace : ¬isSpace c)
    (hmarks : "[]\x7b\x7d,:\"".toList.all fun mark ↦ !p mark) :
    enter c =
      if c.isDigit || c == '-' then some (none, .number [c])
      else if c.isLower then some (none, .word [c])
      else none := by
  have hne : ∀ mark ∈ "[]\x7b\x7d,:\"".toList, c ≠ mark := by
    rintro mark hmark rfl
    have hnot : (!p c) = true := List.all_eq_true.1 hmarks c hmark
    rw [hc] at hnot
    cases hnot
  rw [enter, if_neg hspace, if_neg (hne _ (by decide)), if_neg (hne _ (by decide)),
    if_neg (hne _ (by decide)), if_neg (hne _ (by decide)), if_neg (hne _ (by decide)),
    if_neg (hne _ (by decide)), if_neg (hne _ (by decide))]

/-- A blank stands between tokens, or it stands nowhere. -/
theorem enter_of_isBlank {c : Char} (h : Text.isBlank c) :
    enter c = some (none, .between) ∨ enter c = none := by
  by_cases hspace : isSpace c
  · exact .inl (if_pos hspace)
  · have hminus : c ≠ '-' := by
      rintro rfl
      cases h
    have hnumber : ¬(c.isDigit || c == '-') := by
      rw [Bool.or_eq_true, beq_iff_eq]
      exact not_or_intro (fun hd ↦ Text.not_isBlank_of_isDigit hd h) hminus
    have hlower : ¬c.isLower := fun hl ↦ Text.not_isBlank_of_isLower hl h
    rw [enter_of_apart Text.isBlank h hspace (by decide), if_neg hnumber, if_neg hlower]
    exact .inr rfl

/-- Blanks hold no token. -/
theorem eq_nil_of_scanFrom_blank (h : text.all Text.isBlank) (hk : scanFrom .between text = some k) :
    k = [] := by
  induction text generalizing k with
  | nil => exact (Option.some.inj hk).symm
  | cons c text ih =>
    obtain ⟨hc, htext⟩ := Bool.and_eq_true_iff.1 h
    obtain henter | henter := enter_of_isBlank hc
    · rw [scanFrom_cons_of_nil (by rw [step, henter]; rfl)] at hk
      exact ih htext hk
    · rw [scanFrom_cons_eq_bind, step, henter] at hk
      cases hk

/-! ### What may follow -/

/-- **The text ends a word or a number**: it is empty or begins with a character of neither. -/
def Ends : List Char → Prop
  | [] => True
  | c :: _ => isNumberChar c = false ∧ c.isLower = false

/-- **The text is cut into these tokens** before whatever ends it. -/
def Scans (text : List Char) (tokens : List Token) : Prop :=
  ∀ rest, Ends rest →
    scanFrom .between (text ++ rest) = (scanFrom .between rest).map (tokens ++ ·)

/-- **The text goes on after an item**: it ends that, and is cut into these tokens. -/
structure Continues (text : List Char) (tokens : List Token) : Prop where
  ends : ∀ rest, Ends rest → Ends (text ++ rest)
  scans : Scans text tokens

theorem Ends.of_blank (h : blank.all isSpace) (hrest : Ends rest) : Ends (blank ++ rest) := by
  cases blank with
  | nil => exact hrest
  | cons c blank =>
    have hc : isSpace c = true := (List.all_eq_true.1 h) c List.mem_cons_self
    simp only [isSpace, Bool.or_eq_true, beq_iff_eq] at hc
    obtain ((rfl | rfl) | rfl) | rfl := hc <;> exact ⟨by decide, by decide⟩

/-- A word or a number that is complete where it ends. -/
theorem scanFrom_of_ends {mode : Mode} (hfinish : finish mode = some [t])
    (hstep : ∀ c, isNumberChar c = false → c.isLower = false →
      step mode c = (enter c).map fun (t', m) ↦ (t :: t'.toList, m)) (h : Ends rest) :
    scanFrom mode rest = (scanFrom .between rest).map (t :: ·) := by
  cases rest with
  | nil => exact hfinish
  | cons c rest =>
    rw [scanFrom_cons_eq_bind, scanFrom_cons_eq_bind, hstep c h.1 h.2, step]
    cases enter c with
    | none => rfl
    | some entered =>
      rw [Option.map_some, Option.bind_some, Option.map_some, Option.bind_some, Option.map_map]
      rfl

/-! ### Single tokens -/

/-- A token whose characters are gathered, and that is complete where another character comes. -/
theorem Scans.gathered (mode : List Char → Mode) (goesOn : Char → Bool) {c : Char}
    (hc : enter c = some (none, mode [c])) (htext : text.all goesOn)
    (hgather : ∀ x before, goesOn x → step (mode before) x = some ([], mode (x :: before)))
    (hfinish : finish (mode (c :: text).reverse) = some [t])
    (hstep : ∀ x, isNumberChar x = false → x.isLower = false →
      step (mode (c :: text).reverse) x = (enter x).map fun (t', m) ↦ (t :: t'.toList, m)) :
    Scans (c :: text) [t] := by
  intro rest hrest
  have hbefore : text.reverse ++ [c] = (c :: text).reverse := List.reverse_cons.symm
  rw [List.cons_append, scanFrom_cons_of_nil (by rw [step, hc]; rfl),
    scanFrom_append_of_step mode fun x hx before ↦ hgather x before (List.all_eq_true.1 htext x hx),
    hbefore]
  exact scanFrom_of_ends hfinish hstep hrest

theorem Scans.word {c : Char} (hc : enter c = some (none, .word [c]))
    (hlower : text.all Char.isLower) (hword : ofWord? (c :: text) = some t) :
    Scans (c :: text) [t] := by
  refine .gathered .word Char.isLower hc hlower (fun x _ hx ↦ if_pos hx) ?_ fun x _ hx ↦ ?_
  · rw [finish, List.reverse_reverse, hword]
    rfl
  · rw [step, List.reverse_reverse, hword, if_neg (Bool.eq_false_iff.1 hx)]
    cases enter x <;> rfl

theorem Scans.number {c : Char} {lit : Literal} (hc : enter c = some (none, .number [c]))
    (hchars : text.all isNumberChar) (hlit : Literal.ofChars? (c :: text) = some lit) :
    Scans (c :: text) [.number lit] := by
  refine .gathered .number isNumberChar hc hchars (fun x _ hx ↦ if_pos hx) ?_ fun x hx _ ↦ ?_
  · rw [finish, List.reverse_reverse, hlit]
    rfl
  · rw [step, List.reverse_reverse, hlit, if_neg (Bool.eq_false_iff.1 hx)]
    cases enter x <;> rfl

/-! ### Strings -/

theorem hexValue?_hexDigit : ∀ n < 16, Digits.hexValue? (hexDigit n) = some n := by
  decide

/-- The escape of a control gives the control. -/
theorem scanFrom_unitEscape {n : Nat} (hn : n < 0x20) (units : List Nat) (rest : List Char) :
    scanFrom (.text units) (unitEscape n ++ rest) = scanFrom (.text (n :: units)) rest := by
  have hdigit := fun (k : Nat) ↦ hexValue?_hexDigit (k % 16) (Nat.mod_lt k (by omega))
  have hvalue : (((0 * 16 + n / 4096 % 16) * 16 + n / 256 % 16) * 16 + n / 16 % 16) * 16 + n % 16 =
    n := by omega
  have hhex : ∀ (left value k : Nat), step (.hex units (left + 1) value) (hexDigit (k % 16)) =
      some ([], .hex units left (value * 16 + k % 16)) := fun left value k ↦ by
    rw [step, hdigit]
    rfl
  have hlast : ∀ (value k : Nat), step (.hex units 0 value) (hexDigit (k % 16)) =
      some ([], .text ((value * 16 + k % 16) :: units)) := fun value k ↦ by
    rw [step, hdigit]
    rfl
  have hbackslash : step (.text units) '\\' = some ([], .escape units) := rfl
  have hunit : step (.escape units) 'u' = some ([], .hex units 3 0) := rfl
  simp only [unitEscape, List.cons_append, List.nil_append]
  rw [scanFrom_cons_of_nil hbackslash, scanFrom_cons_of_nil hunit,
    scanFrom_cons_of_nil (hhex 2 0 _), scanFrom_cons_of_nil (hhex 1 _ _),
    scanFrom_cons_of_nil (hhex 0 _ _), scanFrom_cons_of_nil (hlast _ _), hvalue]

/-- A short escape gives its unit. -/
theorem scanFrom_escaped {c : Char} {unit : Nat} (hc : c ≠ 'u') (h : escaped? c = some unit)
    (units : List Nat) (rest : List Char) :
    scanFrom (.text units) ('\\' :: c :: rest) = scanFrom (.text (unit :: units)) rest := by
  have hbackslash : step (.text units) '\\' = some ([], .escape units) := rfl
  have hletter : step (.escape units) c = some ([], .text (unit :: units)) := by
    rw [step, if_neg hc, h]
    rfl
  rw [scanFrom_cons_of_nil hbackslash, scanFrom_cons_of_nil hletter]

/-- **The written form of a character gives the character.** -/
theorem scanFrom_charText (c : Char) (units : List Nat) (rest : List Char) :
    scanFrom (.text units) (charText c ++ rest) = scanFrom (.text (c.toNat :: units)) rest := by
  rw [charText]
  split_ifs with h₁ h₂ h₃ h₄ h₅ h₆ h₇ h₈
  · exact h₁ ▸ scanFrom_escaped (c := '"') (by decide) rfl units rest
  · exact h₂ ▸ scanFrom_escaped (c := '\\') (by decide) rfl units rest
  · exact h₃ ▸ scanFrom_escaped (by decide) rfl units rest
  · exact h₄ ▸ scanFrom_escaped (by decide) rfl units rest
  · exact h₅ ▸ scanFrom_escaped (by decide) rfl units rest
  · exact h₆ ▸ scanFrom_escaped (by decide) rfl units rest
  · exact h₇ ▸ scanFrom_escaped (by decide) rfl units rest
  · exact scanFrom_unitEscape h₈ units rest
  · exact scanFrom_cons_of_nil (by rw [step, if_neg h₁, if_neg h₂, if_neg h₈]) rest

theorem scanFrom_flatMap_charText (cs : List Char) (units : List Nat) (rest : List Char) :
    scanFrom (.text units) (cs.flatMap charText ++ rest) =
      scanFrom (.text ((cs.map Char.toNat).reverse ++ units)) rest := by
  induction cs generalizing units with
  | nil => rfl
  | cons c cs ih =>
    rw [List.flatMap_cons, List.append_assoc, scanFrom_charText, ih, List.map_cons,
      List.reverse_cons, List.append_assoc, List.singleton_append]

/-- Scalar values are no surrogates. -/
theorem joinSurrogates_map_toNat (cs : List Char) : joinSurrogates (cs.map Char.toNat) = some cs := by
  induction cs with
  | nil => rfl
  | cons c cs ih =>
    have hvalid : c.toNat < 0xD800 ∨ 0xDFFF < c.toNat ∧ c.toNat < 0x110000 := c.valid
    rw [List.map_cons, joinSurrogates.eq_def]
    simp only
    rw [if_neg (by omega), if_neg (by omega), ih, Option.map_some,
      Char.ofNat_toNat]

/-- A string is its own end. -/
theorem scanFrom_stringText (s : String) (rest : List Char) :
    scanFrom .between (stringText s ++ rest) =
      (scanFrom .between rest).map (.text (some s) :: ·) := by
  have hopen : step .between '"' = some ([], .text []) := rfl
  have hclose : step (.text (s.toList.map Char.toNat).reverse) '"' =
      some ([.text (some s)], .between) := by
    rw [step, if_pos rfl, List.reverse_reverse, joinSurrogates_map_toNat, Option.map_some,
      String.ofList_toList]
  rw [stringText, List.append_assoc, List.cons_append, scanFrom_cons_of_nil hopen,
    scanFrom_flatMap_charText, List.append_nil, List.singleton_append, scanFrom_cons hclose]
  rfl

theorem Scans.string (s : String) : Scans (stringText s) [.text (some s)] :=
  fun rest _ ↦ scanFrom_stringText s rest

/-! ### Containers -/

/-- A member: its key, a colon and its value. -/
theorem Scans.member (key : String) (blank : List Char) (hb : blank.all isSpace) (h : Scans text k) :
    Scans (stringText key ++ ':' :: (blank ++ text)) (.text (some key) :: .colon :: k) := by
  intro rest hrest
  rw [List.append_assoc, scanFrom_stringText, List.cons_append,
    scanFrom_cons_of_enter (t := .colon) rfl, List.append_assoc, scanFrom_blank hb, h rest hrest]
  cases scanFrom .between rest <;> rfl

theorem Continues.nil : Continues [] [] where
  ends _ h := h
  scans _ _ := Option.map_id_apply.symm

/-- A comma and one more item, and what goes on after it. -/
theorem Continues.item (blank : List Char) (hb : blank.all isSpace) (h : Scans text k)
    (hm : Continues more ks) :
    Continues (',' :: (blank ++ (text ++ more))) (.comma :: (k ++ ks)) where
  ends _ _ := ⟨by decide, by decide⟩
  scans rest hrest := by
    rw [List.cons_append, scanFrom_cons_of_enter (t := .comma) rfl, List.append_assoc,
      scanFrom_blank hb, List.append_assoc, h _ (hm.ends rest hrest), hm.scans rest hrest]
    cases scanFrom .between rest <;> simp

/-- A bracket, the items with blanks around them, and the closing bracket. -/
theorem Scans.enclosed {opening closing : Char} {begins finishes : Token} (first last : List Char)
    (ho : enter opening = some (some begins, .between))
    (hc : enter closing = some (some finishes, .between))
    (hends : Ends [closing]) (hf : first.all isSpace) (hl : last.all isSpace) (h : Scans text k)
    (hm : Continues more ks) :
    Scans (opening :: (first ++ (text ++ (more ++ (last ++ [closing])))))
      (begins :: (k ++ (ks ++ [finishes]))) := by
  intro rest hrest
  have hclosing : Ends (closing :: rest) := hends
  have hlast : Ends (last ++ closing :: rest) := hclosing.of_blank hl
  rw [List.cons_append, scanFrom_cons_of_enter ho, List.append_assoc, scanFrom_blank hf,
    List.append_assoc, List.append_assoc, List.append_assoc, List.singleton_append,
    h _ (hm.ends _ hlast), hm.scans _ hlast, scanFrom_blank hl, scanFrom_cons_of_enter hc]
  cases scanFrom .between rest <;> simp

theorem Scans.list (first last : List Char) (hf : first.all isSpace) (hl : last.all isSpace)
    (h : Scans text k) (hm : Continues more ks) :
    Scans ('[' :: (first ++ (text ++ (more ++ (last ++ [']'])))))
      (.openList :: (k ++ (ks ++ [.closeList]))) :=
  .enclosed first last rfl rfl ⟨rfl, rfl⟩ hf hl h hm

theorem Scans.object (first last : List Char) (hf : first.all isSpace) (hl : last.all isSpace)
    (h : Scans text k) (hm : Continues more ks) :
    Scans ('\x7b' :: (first ++ (text ++ (more ++ (last ++ ['\x7d'])))))
      (.openObject :: (k ++ (ks ++ [.closeObject]))) :=
  .enclosed first last rfl rfl ⟨rfl, rfl⟩ hf hl h hm

/-- Two brackets with nothing between them. -/
theorem Scans.empty {opening closing : Char} {begins finishes : Token}
    (ho : enter opening = some (some begins, .between))
    (hc : enter closing = some (some finishes, .between)) :
    Scans [opening, closing] [begins, finishes] := by
  intro rest _
  rw [List.cons_append, scanFrom_cons_of_enter ho, List.cons_append, scanFrom_cons_of_enter hc]
  exact Option.map_map _ _ _

/-- A whole text, with blanks after it. -/
theorem Scans.scan_eq (h : Scans text k) (hb : blank.all isSpace) :
    scan (text ++ blank) = some k := by
  have hends : Ends blank := by
    rw [← List.append_nil blank]
    exact Ends.of_blank hb trivial
  have hrest : scanFrom .between blank = some [] := by
    rw [← List.append_nil blank, scanFrom_blank hb]
    rfl
  rw [scan, h blank hends, hrest, Option.map_some, List.append_nil]

end Token

end AccountDirectory.Json
