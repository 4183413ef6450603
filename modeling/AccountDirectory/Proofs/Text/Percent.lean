import AccountDirectory.Proofs.Text.Utf8
import AccountDirectory.Text.Percent

/-!
# Reading percent escapes back

`Percent.encode` is inverted by `Percent.decode` on the octets of a text (`decode_encode`), so with
UTF-8 on the text itself (`decode?_decode_encode`). What it writes are unreserved characters and
escapes, hence **plain** characters: those and the percent sign. A plain character has no meaning of
its own between the parts of an address, which is why a text of plain characters is not escaped
again (`escape_eq_self`).
-/

namespace AccountDirectory.Text.Percent

variable {c : Char} {rest : List Char}

/-! ### Plain characters -/

/-- What an escaped text is made of. -/
def IsPlain (c : Char) : Prop := isUnreserved c ∨ c = '%'

theorem toNat_of_isUnreserved (h : isUnreserved c) : 0x2D ≤ c.toNat ∧ c.toNat ≤ 0x7E := by
  unfold isUnreserved Char.isAlphanum Char.isAlpha Char.isUpper Char.isLower Char.isDigit at h
  simp only [Bool.or_eq_true, Bool.and_eq_true, decide_eq_true_eq, beq_iff_eq, ge_iff_le,
    UInt32.le_iff_toNat_le] at h
  rcases h with (((((h | h) | h) | rfl) | rfl) | rfl) | rfl
  · exact ⟨le_trans (by decide) h.1, h.2.trans (by decide)⟩
  · exact ⟨le_trans (by decide) h.1, h.2.trans (by decide)⟩
  · exact ⟨le_trans (by decide) h.1, h.2.trans (by decide)⟩
  all_goals decide

theorem IsPlain.toNat (h : IsPlain c) : 0x25 ≤ c.toNat ∧ c.toNat ≤ 0x7E := by
  rcases h with h | rfl
  · exact ⟨le_trans (by decide) (toNat_of_isUnreserved h).1, (toNat_of_isUnreserved h).2⟩
  · decide

/-- A character that is neither unreserved nor the percent sign is none of an escaped text. -/
theorem IsPlain.ne (h : IsPlain c) {x : Char} (hx : isUnreserved x = false) (hx' : x ≠ '%') :
    c ≠ x := by
  rintro rfl
  rcases h with h | h
  · rw [hx] at h
    cases h
  · exact hx' h

theorem isPlain_hexDigit {n : Nat} (h : n < 16) : IsPlain (hexDigit n) := by
  have hall : ∀ m < 16, isUnreserved (hexDigit m) := by decide
  exact .inl (hall n h)

theorem isPlain_of_mem_escapeOctet {b : UInt8} (h : c ∈ escapeOctet b) : IsPlain c := by
  have hb : b.toNat < 256 := b.toNat_lt
  simp only [escapeOctet, List.mem_cons, List.not_mem_nil, or_false] at h
  rcases h with rfl | rfl | rfl
  · exact .inr rfl
  · exact isPlain_hexDigit (by omega)
  · exact isPlain_hexDigit (by omega)

/-- **An escaped text is plain.** -/
theorem isPlain_of_mem_encode {cs : List Char} (h : c ∈ encode cs) : IsPlain c := by
  obtain ⟨x, -, hx⟩ := List.mem_flatMap.1 h
  rw [encodeChar] at hx
  split_ifs at hx with hunreserved
  · obtain rfl := List.mem_singleton.1 hx
    exact .inl hunreserved
  · obtain ⟨b, -, hb⟩ := List.mem_flatMap.1 hx
    exact isPlain_of_mem_escapeOctet hb

/-- What needs no escape is kept. -/
theorem escape_eq_self {set cs : List Char}
    (h : ∀ c ∈ cs, 0x20 ≤ c.toNat ∧ c.toNat ≤ 0x7E ∧ c ∉ set) : escape set cs = cs := by
  induction cs with
  | nil => rfl
  | cons c cs ih =>
    obtain ⟨⟨hleast, hgreatest, hset⟩, hrest⟩ := List.forall_mem_cons.1 h
    rw [escape, List.flatMap_cons, ← escape, ih hrest, if_neg (by simp [hset]; omega)]
    rfl

/-! ### Reading back -/

theorem hexValue?_hexDigit {n : Nat} (h : n < 16) : Digits.hexValue? (hexDigit n) = some n := by
  have hall : ∀ m < 16, Digits.hexValue? (hexDigit m) = some m := by decide
  exact hall n h

/-- An escape is read as its octet. -/
theorem decode_escapeOctet (b : UInt8) : decode (escapeOctet b ++ rest) = b :: decode rest := by
  have hb : b.toNat < 256 := b.toNat_lt
  rw [escapeOctet, List.cons_append, List.cons_append, List.singleton_append, decode,
    hexValue?_hexDigit (by omega), hexValue?_hexDigit (by omega)]
  show UInt8.ofNat (b.toNat / 16 * 16 + b.toNat % 16) :: decode rest = _
  rw [Nat.div_add_mod', UInt8.ofNat_toNat]

theorem decode_escapes (bs : List UInt8) :
    decode (bs.flatMap escapeOctet ++ rest) = bs ++ decode rest := by
  induction bs with
  | nil => rfl
  | cons b bs ih =>
    rw [List.flatMap_cons, List.append_assoc, decode_escapeOctet, ih, List.cons_append]

/-- What is not escaped is read as itself. -/
theorem decode_cons_of_ne (h : c ≠ '%') :
    decode (c :: rest) = Utf8.encodeChar c ++ decode rest := by
  rw [decode]
  exact fun a b rest' hc _ ↦ h hc

theorem decode_append {front : List Char} (h : ∀ c ∈ front, c ≠ '%') :
    decode (front ++ rest) = Utf8.encode front ++ decode rest := by
  induction front with
  | nil => rfl
  | cons c front ih =>
    obtain ⟨hc, hfront⟩ := List.forall_mem_cons.1 h
    rw [List.cons_append, decode_cons_of_ne hc, ih hfront, ← List.append_assoc]
    rfl

theorem decode_encodeChar (c : Char) :
    decode (encodeChar c ++ rest) = Utf8.encodeChar c ++ decode rest := by
  rw [encodeChar]
  split_ifs with h
  · have hne : c ≠ '%' := by
      rintro rfl
      exact absurd h (by decide)
    exact decode_cons_of_ne hne
  · exact decode_escapes _

/-- **Escapes are read back**: the octets are those of the text. -/
theorem decode_encode (cs : List Char) : decode (encode cs) = Utf8.encode cs := by
  induction cs with
  | nil => rfl
  | cons c cs ih =>
    rw [encode, List.flatMap_cons, decode_encodeChar, ← encode, ih]
    rfl

/-- So is the text. -/
theorem decode?_decode_encode (cs : List Char) : Utf8.decode? (decode (encode cs)) = some cs := by
  rw [decode_encode, Utf8.decode?_encode]

theorem encode_injective : Function.Injective encode := by
  intro cs cs' h
  have hdecode := congrArg decode h
  rw [decode_encode, decode_encode] at hdecode
  exact Utf8.encode_injective hdecode

end AccountDirectory.Text.Percent
