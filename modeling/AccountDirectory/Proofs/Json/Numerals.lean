import AccountDirectory.Proofs.Json.Scanning
import Mathlib.Data.List.Basic
import Mathlib.Data.List.TakeWhile

/-!
# Numbers that are written and read

Whatever is a literal is scanned as one token (`Scans.of_ofChars?`), so a number survives its written
form if that is a literal of the same value: `Number.IsKept`.

Every integer is kept (`isKept_integer`): its digits have no leading zero, and they spell it. For a
double this is a property of its shortest digits and of the reader's arithmetic on them, which rounds
twice; it is assumed where it is needed.
-/

namespace AccountDirectory.Json

/-! ### Literals as tokens -/

namespace Token

theorem isNumberChar_of_isDigit {c : Char} (h : c.isDigit) : isNumberChar c := by
  rw [isNumberChar, h]
  rfl

/-- Between tokens, a digit begins a number. -/
theorem enter_of_isDigit {c : Char} (h : c.isDigit) : enter c = some (none, .number [c]) := by
  have hspace : ¬isSpace c := by
    simp only [isSpace, Bool.or_eq_true, beq_iff_eq]
    rintro (((rfl | rfl) | rfl) | rfl) <;> cases h
  rw [enter_of_apart Char.isDigit h hspace (by decide), h]
  rfl

end Token

namespace Literal

open Token (isNumberChar isNumberChar_of_isDigit)

variable {cs : List Char} {lit : Literal}

theorem all_isNumberChar_of_all_isDigit (h : cs.all Char.isDigit) : cs.all isNumberChar :=
  List.all_eq_true.2 fun c hc ↦ isNumberChar_of_isDigit (List.all_eq_true.1 h c hc)

/-- Digits, and number characters after them. -/
theorem all_isNumberChar_of_dropWhile (h : (cs.dropWhile Char.isDigit).all isNumberChar) :
    cs.all isNumberChar := by
  rw [← List.takeWhile_append_dropWhile (p := Char.isDigit) (l := cs), List.all_append, h,
    Bool.and_true]
  exact all_isNumberChar_of_all_isDigit List.all_takeWhile

theorem all_isNumberChar_of_exponentOf? {e : Option (Bool × List Char)}
    (h : exponentOf? cs = some e) : cs.all isNumberChar := by
  revert h
  fun_cases exponentOf? cs with
  | case1 => exact fun _ ↦ rfl
  | case2 c rest hc negative digits hsign hdigits =>
    intro _
    have hletter : isNumberChar c := by
      obtain rfl | rfl := hc <;> rfl
    have hall : digits.all isNumberChar :=
      all_isNumberChar_of_all_isDigit (Bool.and_eq_true_iff.1 hdigits).2
    rw [List.all_cons, hletter, Bool.true_and]
    split at hsign
    all_goals
      obtain rfl := (Prod.mk.inj hsign).2
      exact hall
  | case3 | case4 => exact nofun

theorem all_isNumberChar_of_tailOf? {negative : Bool} {whole : List Char}
    (h : tailOf? negative whole cs = some lit) : cs.all isNumberChar := by
  revert h
  fun_cases tailOf? negative whole cs with
  | case1 => exact nofun
  | case2 rest =>
    intro h
    obtain ⟨e, he, -⟩ := Option.map_eq_some_iff.1 h
    rw [List.all_cons, show isNumberChar '.' from rfl, Bool.true_and]
    exact all_isNumberChar_of_dropWhile (all_isNumberChar_of_exponentOf? he)
  | case3 =>
    intro h
    obtain ⟨e, he, -⟩ := Option.map_eq_some_iff.1 h
    exact all_isNumberChar_of_exponentOf? he

/-- A literal is written with the characters of numbers, of which the first one begins a number. -/
theorem exists_cons_of_ofChars? (h : ofChars? cs = some lit) :
    ∃ c rest, cs = c :: rest ∧ Token.enter c = some (none, .number [c]) ∧ rest.all isNumberChar := by
  revert h
  fun_cases ofChars? cs with
  | case1 => exact nofun
  | case2 negative digits hsign whole hwhole =>
    intro h
    have hall : digits.all isNumberChar :=
      all_isNumberChar_of_dropWhile (all_isNumberChar_of_tailOf? h)
    split at hsign
    · next rest =>
      obtain rfl := (Prod.mk.inj hsign).2
      exact ⟨'-', _, rfl, rfl, hall⟩
    · obtain rfl := (Prod.mk.inj hsign).2
      cases cs with
      | nil => exact absurd rfl hwhole
      | cons c rest =>
        refine ⟨c, rest, rfl, ?_, (Bool.and_eq_true_iff.1 hall).2⟩
        by_cases hc : c.isDigit
        · exact Token.enter_of_isDigit hc
        · refine absurd ?_ hwhole
          rw [show whole = [] from List.takeWhile_cons_of_neg hc]
          rfl

end Literal

/-- **A literal is one token.** -/
theorem Token.Scans.of_ofChars? {text : List Char} {lit : Literal}
    (h : Literal.ofChars? text = some lit) : Scans text [.number lit] := by
  obtain ⟨c, rest, rfl, hc, hrest⟩ := Literal.exists_cons_of_ofChars? h
  exact .number hc hrest h

/-! ### Numbers that are kept -/

/-- **The number is read back from its written form.** -/
def Number.IsKept (n : Number) : Prop :=
  (Literal.ofChars? n.text).bind Number.ofLiteral? = some n

instance (n : Number) : Decidable n.IsKept :=
  inferInstanceAs (Decidable ((Literal.ofChars? n.text).bind Number.ofLiteral? = some n))

/-! ### Integers -/

theorem all_isDigit_naturalText (n : Nat) : (naturalText n).all Char.isDigit :=
  List.all_eq_true.2 fun _ hc ↦ Nat.isDigit_of_mem_toDigits (by decide) (by decide) hc

theorem decimal_naturalText (n : Nat) : Digits.decimal (naturalText n) = n := by
  have hfoldl : Digits.decimal (naturalText n) = Nat.ofDigitChars 10 (naturalText n) 0 := by
    rw [Digits.decimal, Nat.ofDigitChars_eq_foldl]
    simp only [Nat.mul_comm, Digits.digitValue]
    rfl
  rw [hfoldl, naturalText, Nat.ofDigitChars_ten_toDigits]

/-- Only zero begins with the digit zero. -/
theorem head?_naturalText {n : Nat} (h : 0 < n) : (naturalText n).head? ≠ some '0' := by
  induction n using Nat.strongRecOn with
  | ind n ih =>
    rw [naturalText, Nat.toDigits_eq_if (by decide)]
    split
    · rw [List.head?_cons, Ne, Option.some.injEq, Nat.digitChar_eq_zero]
      omega
    · rw [List.head?_append_of_ne_nil _ Nat.toDigits_ne_nil]
      exact ih (n / 10) (by omega) (by omega)

/-- The digits of a natural are a literal, with a minus sign and without one. -/
theorem Literal.ofChars?_naturalText (n : Nat) :
    ofChars? (naturalText n) = some ⟨false, naturalText n, [], none⟩ ∧
      ofChars? ('-' :: naturalText n) = some ⟨true, naturalText n, [], none⟩ := by
  have hall : ∀ c ∈ naturalText n, c.isDigit := List.all_eq_true.1 (all_isDigit_naturalText n)
  have htake : (naturalText n).takeWhile Char.isDigit = naturalText n :=
    List.takeWhile_eq_self_iff.2 hall
  have hdrop : (naturalText n).dropWhile Char.isDigit = [] := List.dropWhile_eq_nil_iff.2 hall
  have hlead : ¬((naturalText n).isEmpty ||
      ((naturalText n).head? == some '0' && decide (1 < (naturalText n).length))) := by
    rw [Bool.or_eq_true, Bool.and_eq_true, List.isEmpty_iff, beq_iff_eq, decide_eq_true_eq]
    rintro (hnil | ⟨hhead, hlength⟩)
    · exact Nat.toDigits_ne_nil hnil
    · obtain rfl | hpos := Nat.eq_zero_or_pos n
      · exact absurd hlength (by decide)
      · exact head?_naturalText hpos hhead
  have hsign : ∀ rest, naturalText n ≠ '-' :: rest := by
    intro rest h
    have hminus : '-'.isDigit := hall '-' (h ▸ List.mem_cons_self)
    cases hminus
  constructor
  · rw [ofChars?]
    · rw [htake, hdrop, if_neg hlead]
      rfl
    · exact hsign
  · rw [ofChars?, htake, hdrop, if_neg hlead]
    rfl

theorem Literal.toInt?_naturalText (negative : Bool) (n : Nat) :
    toInt? ⟨negative, naturalText n, [], none⟩ =
      if negative then
        if 0 < (n : Int) ∧ (n : Int) ≤ 0x8000000000000000 then some (-(n : Int)) else none
      else if (n : Int) < 0x10000000000000000 then some (n : Int)
      else none := by
  simp only [toInt?, decimal_naturalText, List.isEmpty_nil, Option.isNone_none, Bool.and_self,
    if_true]

/-- **Every integer is kept.** -/
theorem Number.isKept_integer (n : Int) (bounds) : (Number.integer n bounds).IsKept := by
  obtain ⟨hplain, hsigned⟩ := Literal.ofChars?_naturalText n.natAbs
  rw [IsKept, text, integerText]
  split
  · have hint : Literal.toInt? ⟨true, naturalText n.natAbs, [], none⟩ = some n := by
      rw [Literal.toInt?_naturalText, if_pos rfl, if_pos (by omega)]
      exact congrArg some (by omega)
    rw [hsigned, Option.bind_some, ofLiteral?, hint]
    exact dif_pos bounds
  · have hint : Literal.toInt? ⟨false, naturalText n.natAbs, [], none⟩ = some n := by
      rw [Literal.toInt?_naturalText, if_neg Bool.false_ne_true, if_pos (by omega)]
      exact congrArg some (by omega)
    rw [hplain, Option.bind_some, ofLiteral?, hint]
    exact dif_pos bounds

end AccountDirectory.Json
