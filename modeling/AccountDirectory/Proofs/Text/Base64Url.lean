import AccountDirectory.Text.Base64Url
import AccountDirectory.Text.Blank
import Mathlib.Tactic.SplitIfs

/-!
# Written forms of octet strings

`decode?` reads exactly the written forms: `decode?_eq_some_iff` says that a text is read as an
octet string if and only if it is the written form of it. So a text that is read has one spelling,
and what is said of its octets is said of its characters.

Both directions are inductions on the groups of the reader or the writer. A group is a change of
base, from 256 to 64 and back, and needs that the letters are one digit each
(`value?_letter`, `letter_value?`).

Which texts are written forms can be told by their letters, without reading them
(`isWrittenForm_iff`).
-/

namespace AccountDirectory.Text.Base64Url

/-! ### Letters -/

/-- A letter has the value that it was written for. -/
theorem value?_letter {n : Nat} (h : n < 64) : value? (letter n) = some n := by
  have hall : ∀ m < 64, value? (letter m) = some m := by decide
  exact hall n h

/-- Only letters have a value, each letter its own. -/
theorem letter_value? {c : Char} {n : Nat} (h : value? c = some n) : n < 64 ∧ letter n = c := by
  have hchar : Char.ofNat c.toNat = c := Char.ofNat_toNat c
  -- one case for each range of the alphabet, in the order in which the reader tries them
  rw [value?] at h
  split at h
  · next hc =>
    obtain rfl := Option.some.inj h
    refine ⟨by omega, ?_⟩
    rw [letter, if_pos (by omega), Nat.sub_add_cancel hc.1, hchar]
  split at h
  · next hc =>
    obtain rfl := Option.some.inj h
    refine ⟨by omega, ?_⟩
    rw [letter, if_neg (by omega), if_pos (by omega), Nat.sub_add_cancel (by omega), hchar]
  split at h
  · next hc =>
    obtain rfl := Option.some.inj h
    refine ⟨by omega, ?_⟩
    rw [letter, if_neg (by omega), if_neg (by omega), if_pos (by omega), Nat.add_sub_cancel, hchar]
  split at h
  · next hc =>
    obtain rfl := Option.some.inj h
    exact ⟨by omega, hc.symm⟩
  split at h
  · next hc =>
    obtain rfl := Option.some.inj h
    exact ⟨by omega, hc.symm⟩
  · cases h

/-- The dot is no letter. -/
theorem letter_ne_dot (n : Nat) : letter n ≠ '.' := by
  by_cases h : n < 64
  · have hall : ∀ m < 64, letter m ≠ '.' := by decide
    exact hall n h
  · rw [letter, if_neg (by omega), if_neg (by omega), if_neg (by omega), if_neg (by omega)]
    decide

/-- A letter is in the alphabet, -/
theorem isLetter_letter (n : Nat) : isLetter (letter n) := by
  by_cases h : n < 64
  · have hall : ∀ m < 64, isLetter (letter m) := by decide
    exact hall n h
  · rw [letter, if_neg (by omega), if_neg (by omega), if_neg (by omega), if_neg (by omega)]
    rfl

/-- and no blank. -/
theorem not_isBlank_letter (n : Nat) : ¬isBlank (letter n) := by
  by_cases h : n < 64
  · have hall : ∀ m < 64, ¬isBlank (letter m) := by decide
    exact hall n h
  · rw [letter, if_neg (by omega), if_neg (by omega), if_neg (by omega), if_neg (by omega)]
    decide

/-- Only the empty octet string has an empty written form. -/
theorem encode_ne_nil {octets : List UInt8} (h : octets ≠ []) : encode octets ≠ [] := by
  fun_cases encode octets with
  | case1 => exact absurd rfl h
  | case2 | case3 | case4 => exact List.cons_ne_nil _ _

/-- A written form can stand between dots. -/
theorem dot_notMem_encode (octets : List UInt8) : '.' ∉ encode octets := by
  fun_induction encode octets with
  | case1 => exact List.not_mem_nil
  | case2 | case3 => simp [(letter_ne_dot _).symm]
  | case4 a b c rest ih => simp [(letter_ne_dot _).symm, ih]

/-! ### Reading what was written, and writing what was read -/

/-- **A written form is read as the octets it was written for.** -/
theorem decode?_encode (octets : List UInt8) : decode? (encode octets) = some octets := by
  fun_induction encode octets with
  | case1 => rfl
  | case2 a =>
    have ha := a.toNat_lt
    rw [decode?, value?_letter (by omega), value?_letter (by omega)]
    show (if a.toNat % 4 * 16 % 16 = 0 then _ else none) = _
    rw [if_pos (by omega), show a.toNat / 4 * 4 + a.toNat % 4 * 16 / 16 = a.toNat by omega,
      UInt8.ofNat_toNat]
  | case3 a b =>
    have ha := a.toNat_lt
    have hb := b.toNat_lt
    rw [decode?, value?_letter (by omega), value?_letter (by omega), value?_letter (by omega)]
    show (if b.toNat % 16 * 4 % 4 = 0 then _ else none) = _
    rw [if_pos (by omega),
      show a.toNat / 4 * 4 + (a.toNat % 4 * 16 + b.toNat / 16) / 16 = a.toNat by omega,
      show (a.toNat % 4 * 16 + b.toNat / 16) % 16 * 16 + b.toNat % 16 * 4 / 4 = b.toNat by omega,
      UInt8.ofNat_toNat, UInt8.ofNat_toNat]
  | case4 a b c rest ih =>
    have ha := a.toNat_lt
    have hb := b.toNat_lt
    have hc := c.toNat_lt
    rw [decode?, value?_letter (by omega), value?_letter (by omega), value?_letter (by omega),
      value?_letter (by omega), ih]
    show some (UInt8.ofNat _ :: UInt8.ofNat _ :: UInt8.ofNat _ :: rest) = _
    rw [show a.toNat / 4 * 4 + (a.toNat % 4 * 16 + b.toNat / 16) / 16 = a.toNat by omega,
      show (a.toNat % 4 * 16 + b.toNat / 16) % 16 * 16 + (b.toNat % 16 * 4 + c.toNat / 64) / 4 =
        b.toNat by omega,
      show (b.toNat % 16 * 4 + c.toNat / 64) % 4 * 64 + c.toNat % 64 = c.toNat by omega,
      UInt8.ofNat_toNat, UInt8.ofNat_toNat, UInt8.ofNat_toNat]

private theorem toNat_ofNat_of_lt {n : Nat} (h : n < 256) : (UInt8.ofNat n).toNat = n :=
  UInt8.toNat_ofNat_of_lt' h

/-- **What is read has the written form that was read.** -/
theorem encode_of_decode? {cs : List Char} {octets : List UInt8} (h : decode? cs = some octets) :
    encode octets = cs := by
  fun_induction decode? cs generalizing octets with
  | case1 =>
    obtain rfl := Option.some.inj h
    rfl
  | case2 => cases h
  | case3 w x =>
    simp only [Option.bind_eq_bind, Option.bind_eq_some_iff] at h
    obtain ⟨m, hm, n, hn, h⟩ := h
    split at h
    · next hz =>
      obtain rfl := Option.some.inj h
      obtain ⟨hm, rfl⟩ := letter_value? hm
      obtain ⟨hn, rfl⟩ := letter_value? hn
      rw [encode, toNat_ofNat_of_lt (by omega), show (m * 4 + n / 16) / 4 = m by omega,
        show (m * 4 + n / 16) % 4 * 16 = n by omega]
    · cases h
  | case4 w x y =>
    simp only [Option.bind_eq_bind, Option.bind_eq_some_iff] at h
    obtain ⟨m, hm, n, hn, o, ho, h⟩ := h
    split at h
    · next hz =>
      obtain rfl := Option.some.inj h
      obtain ⟨hm, rfl⟩ := letter_value? hm
      obtain ⟨hn, rfl⟩ := letter_value? hn
      obtain ⟨ho, rfl⟩ := letter_value? ho
      rw [encode, toNat_ofNat_of_lt (by omega), toNat_ofNat_of_lt (by omega),
        show (m * 4 + n / 16) / 4 = m by omega,
        show (m * 4 + n / 16) % 4 * 16 + (n % 16 * 16 + o / 4) / 16 = n by omega,
        show (n % 16 * 16 + o / 4) % 16 * 4 = o by omega]
    · cases h
  | case5 w x y z rest ih =>
    simp only [Option.bind_eq_bind, Option.bind_eq_some_iff] at h
    obtain ⟨m, hm, n, hn, o, ho, p, hp, later, hl, h⟩ := h
    obtain rfl := Option.some.inj h
    obtain ⟨hm, rfl⟩ := letter_value? hm
    obtain ⟨hn, rfl⟩ := letter_value? hn
    obtain ⟨ho, rfl⟩ := letter_value? ho
    obtain ⟨hp, rfl⟩ := letter_value? hp
    rw [encode, ih hl, toNat_ofNat_of_lt (by omega), toNat_ofNat_of_lt (by omega),
      toNat_ofNat_of_lt (by omega), show (m * 4 + n / 16) / 4 = m by omega,
      show (m * 4 + n / 16) % 4 * 16 + (n % 16 * 16 + o / 4) / 16 = n by omega,
      show (n % 16 * 16 + o / 4) % 16 * 4 + (o % 4 * 64 + p) / 64 = o by omega,
      show (o % 4 * 64 + p) % 64 = p by omega]

theorem encode_injective : Function.Injective encode := by
  intro octets octets' h
  have hread := congrArg decode? h
  rwa [decode?_encode, decode?_encode, Option.some.injEq] at hread

/-- The reader reads the written forms and nothing else. -/
theorem decode?_eq_some_iff {cs : List Char} {octets : List UInt8} :
    decode? cs = some octets ↔ cs = encode octets := by
  constructor
  · exact fun h ↦ (encode_of_decode? h).symm
  · rintro rfl
    exact decode?_encode octets

/-! ### Which texts are written forms -/

/-- **The alphabet**, each letter at the place of its value. -/
def alphabet : List Char :=
  "ABCDEFGHIJKLMNOPQRSTUVWXYZabcdefghijklmnopqrstuvwxyz0123456789-_".toList

theorem alphabet_eq : alphabet = (List.range 64).map letter := by decide +kernel

theorem mem_alphabet_iff_exists {c : Char} : c ∈ alphabet ↔ ∃ n < 64, letter n = c := by
  rw [alphabet_eq, List.mem_map]
  simp only [List.mem_range]

/-- What is no letter is not in the alphabet. -/
theorem notMem_alphabet {c : Char} (h : ∀ n < 64, letter n ≠ c) : c ∉ alphabet := by
  intro hc
  obtain ⟨n, hn, hletter⟩ := mem_alphabet_iff_exists.1 hc
  exact h n hn hletter

theorem idxOf_letter {n : Nat} (h : n < 64) : alphabet.idxOf (letter n) = n := by
  have hall : ∀ m < 64, alphabet.idxOf (letter m) = m := by decide +kernel
  exact hall n h

/-- A letter of the alphabet has its place there as its value. -/
theorem value?_of_mem_alphabet {c : Char} (h : c ∈ alphabet) :
    alphabet.idxOf c < 64 ∧ value? c = some (alphabet.idxOf c) := by
  obtain ⟨n, hn, rfl⟩ := mem_alphabet_iff_exists.1 h
  rw [idxOf_letter hn, value?_letter hn]
  exact ⟨hn, rfl⟩

/-- The test for letters is a test for letters of the alphabet. -/
theorem isLetter_iff_mem_alphabet {c : Char} : isLetter c ↔ c ∈ alphabet := by
  constructor
  · intro h
    unfold isLetter Char.isAlphanum Char.isAlpha Char.isUpper Char.isLower Char.isDigit at h
    simp only [Bool.or_eq_true, Bool.and_eq_true, decide_eq_true_eq, beq_iff_eq, ge_iff_le,
      UInt32.le_iff_toNat_le] at h
    obtain ⟨n, hn⟩ : ∃ n, value? c = some n := by
      rw [← Option.isSome_iff_exists, value?]
      split_ifs with h1 h2 h3 h4 h5
      all_goals try rfl
      obtain (((h | h) | h) | h) | h := h
      · exact absurd h h1
      · exact absurd h h2
      · exact absurd h h3
      · exact absurd h h4
      · exact absurd h h5
    obtain ⟨hlt, hc⟩ := letter_value? hn
    exact mem_alphabet_iff_exists.2 ⟨n, hlt, hc⟩
  · intro h
    obtain ⟨n, -, rfl⟩ := mem_alphabet_iff_exists.1 h
    exact isLetter_letter n

/-- **The text is a written form**: letters of the alphabet, not one alone in the last group, and
the bits of the last letter that no octet needs are zero. -/
structure IsWrittenForm (cs : List Char) : Prop where
  letters : ∀ c ∈ cs, c ∈ alphabet
  length_ne : cs.length % 4 ≠ 1
  /-- Of two letters left over, four bits are not needed. -/
  two : cs.length % 4 = 2 → ∀ c ∈ cs.getLast?, alphabet.idxOf c % 16 = 0
  /-- Of three letters left over, two bits are not needed. -/
  three : cs.length % 4 = 3 → ∀ c ∈ cs.getLast?, alphabet.idxOf c % 4 = 0

/-- A group more or less at the front does not matter. -/
theorem isWrittenForm_group_iff {w x y z : Char} {rest : List Char} :
    IsWrittenForm (w :: x :: y :: z :: rest) ↔
      (w ∈ alphabet ∧ x ∈ alphabet ∧ y ∈ alphabet ∧ z ∈ alphabet) ∧ IsWrittenForm rest := by
  have hlength : (w :: x :: y :: z :: rest).length % 4 = rest.length % 4 := by
    simp only [List.length_cons]
    omega
  have hlast : rest.length % 4 ≠ 0 →
      (w :: x :: y :: z :: rest).getLast? = rest.getLast? := by
    intro h
    cases rest with
    | nil => exact absurd rfl h
    | cons c rest => rfl
  have hletters : (∀ c ∈ w :: x :: y :: z :: rest, c ∈ alphabet) ↔
      (w ∈ alphabet ∧ x ∈ alphabet ∧ y ∈ alphabet ∧ z ∈ alphabet) ∧ ∀ c ∈ rest, c ∈ alphabet := by
    simp only [List.forall_mem_cons, and_assoc]
  constructor
  · rintro ⟨hall, hne, htwo, hthree⟩
    rw [hlength] at hne htwo hthree
    obtain ⟨hgroup, hrest⟩ := hletters.1 hall
    exact ⟨hgroup, hrest, hne, fun h ↦ hlast (by omega) ▸ htwo h,
      fun h ↦ hlast (by omega) ▸ hthree h⟩
  · rintro ⟨hgroup, hrest, hne, htwo, hthree⟩
    rw [← hlength] at hne htwo hthree
    refine ⟨hletters.2 ⟨hgroup, hrest⟩, hne, fun h ↦ ?_, fun h ↦ ?_⟩
    · exact (hlast (by omega)).symm ▸ htwo h
    · exact (hlast (by omega)).symm ▸ hthree h

theorem isWrittenForm_encode (octets : List UInt8) : IsWrittenForm (encode octets) := by
  have hletter : ∀ {n : Nat}, n < 64 → letter n ∈ alphabet :=
    fun hn ↦ mem_alphabet_iff_exists.2 ⟨_, hn, rfl⟩
  fun_induction encode octets with
  | case1 => exact ⟨nofun, nofun, nofun, nofun⟩
  | case2 a =>
    have ha := a.toNat_lt
    refine ⟨List.forall_mem_cons.2 ⟨hletter (by omega), List.forall_mem_singleton.2
      (hletter (by omega))⟩, nofun, fun _ c hc ↦ ?_, nofun⟩
    obtain rfl : letter (a.toNat % 4 * 16) = c := Option.some.inj hc
    rw [idxOf_letter (by omega)]
    omega
  | case3 a b =>
    have ha := a.toNat_lt
    have hb := b.toNat_lt
    refine ⟨List.forall_mem_cons.2 ⟨hletter (by omega), List.forall_mem_cons.2
      ⟨hletter (by omega), List.forall_mem_singleton.2 (hletter (by omega))⟩⟩, nofun, nofun,
      fun _ c hc ↦ ?_⟩
    obtain rfl : letter (b.toNat % 16 * 4) = c := Option.some.inj hc
    rw [idxOf_letter (by omega)]
    omega
  | case4 a b c rest ih =>
    have ha := a.toNat_lt
    have hb := b.toNat_lt
    have hc := c.toNat_lt
    exact isWrittenForm_group_iff.2 ⟨⟨hletter (by omega), hletter (by omega), hletter (by omega),
      hletter (by omega)⟩, ih⟩

theorem IsWrittenForm.isSome_decode? {cs : List Char} (h : IsWrittenForm cs) :
    (decode? cs).isSome := by
  fun_induction decode? cs with
  | case1 => rfl
  | case2 => exact absurd rfl h.length_ne
  | case3 w x =>
    obtain ⟨hw, hx⟩ := List.forall_mem_cons.1 h.letters
    rw [(value?_of_mem_alphabet hw).2, (value?_of_mem_alphabet (hx x List.mem_cons_self)).2]
    show (if _ then _ else none).isSome
    rw [if_pos (h.two rfl x rfl)]
    rfl
  | case4 w x y =>
    obtain ⟨hw, h'⟩ := List.forall_mem_cons.1 h.letters
    obtain ⟨hx, hy⟩ := List.forall_mem_cons.1 h'
    rw [(value?_of_mem_alphabet hw).2, (value?_of_mem_alphabet hx).2,
      (value?_of_mem_alphabet (hy y List.mem_cons_self)).2]
    show (if _ then _ else none).isSome
    rw [if_pos (h.three rfl y rfl)]
    rfl
  | case5 w x y z rest ih =>
    obtain ⟨⟨hw, hx, hy, hz⟩, hrest⟩ := isWrittenForm_group_iff.1 h
    obtain ⟨later, hlater⟩ := Option.isSome_iff_exists.1 (ih hrest)
    rw [(value?_of_mem_alphabet hw).2, (value?_of_mem_alphabet hx).2,
      (value?_of_mem_alphabet hy).2, (value?_of_mem_alphabet hz).2, hlater]
    rfl

/-- **The written forms of octet strings**, told by their letters alone. -/
theorem isWrittenForm_iff {cs : List Char} :
    IsWrittenForm cs ↔ ∃ octets, cs = encode octets := by
  constructor
  · intro h
    obtain ⟨octets, hoctets⟩ := Option.isSome_iff_exists.1 h.isSome_decode?
    exact ⟨octets, decode?_eq_some_iff.1 hoctets⟩
  · rintro ⟨octets, rfl⟩
    exact isWrittenForm_encode octets

end AccountDirectory.Text.Base64Url
