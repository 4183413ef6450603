import AccountDirectory.Proofs.Items
import AccountDirectory.Text.Utf8
import Mathlib.Tactic.IntervalCases

/-!
# Reading UTF-8 back

What `Utf8.encode` writes is read back as the same text (`decode?_encode`). A character is written
as a lead and up to three octets that continue it, so the proof follows the four lengths: the lead
opens a sequence with the value of its own bits (`lead_two`, `lead_three`, `lead_four`), and each
octet after it adds six more (`decodeParts_continue`, `decodeParts_finish`). The narrower ranges
after some leads hold because a character is not written longer than needed and is no surrogate.

Conversely these ranges shut out everything else: octets that are read without an ill-formed part
are those that the text is written with (`decode?_eq_some_iff`).
-/

namespace AccountDirectory.Text.Utf8

/-! ### One octet -/

theorem lead_one {n : Nat} (h : n < 0x80) : lead (UInt8.ofNat n) = .single (Char.ofNat n) := by
  rw [lead, UInt8.toNat_ofNat_of_lt' (Nat.lt_of_lt_of_le h (by decide))]
  exact if_pos h

theorem lead_two {m : Nat} (h : 2 ≤ m) (h' : m < 32) :
    lead (UInt8.ofNat (0xC0 + m)) = .opens ⟨m, 0, 0x80, 0xBF⟩ := by
  interval_cases m <;> rfl

theorem lead_three {m : Nat} (h : m < 16) :
    lead (UInt8.ofNat (0xE0 + m)) =
      .opens ⟨m, 1, if m = 0 then 0xA0 else 0x80, if m = 13 then 0x9F else 0xBF⟩ := by
  interval_cases m <;> rfl

theorem lead_four {m : Nat} (h : m < 5) :
    lead (UInt8.ofNat (0xF0 + m)) =
      .opens ⟨m, 2, if m = 0 then 0x90 else 0x80, if m = 4 then 0x8F else 0xBF⟩ := by
  interval_cases m <;> rfl

variable {rest : List UInt8}

theorem decodeParts_single {b : UInt8} {c : Char} (h : lead b = .single c) :
    decodeParts none (b :: rest) = some c :: decodeParts none rest := by
  rw [decodeParts, h]

theorem decodeParts_opens {b : UInt8} {s : Sequence} (h : lead b = .opens s) :
    decodeParts none (b :: rest) = decodeParts (some s) rest := by
  rw [decodeParts, h]

/-- An octet inside a sequence adds its six bits, -/
theorem decodeParts_continue {code after least greatest x : Nat} (hx : x < 64)
    (hleast : least ≤ 0x80 + x) (hgreatest : 0x80 + x ≤ greatest) :
    decodeParts (some ⟨code, after + 1, least, greatest⟩) (UInt8.ofNat (0x80 + x) :: rest) =
      decodeParts (some ⟨code * 64 + x, after, 0x80, 0xBF⟩) rest := by
  have hoctet : (UInt8.ofNat (0x80 + x)).toNat = 0x80 + x :=
    UInt8.toNat_ofNat_of_lt' (Nat.lt_of_lt_of_le (Nat.add_lt_add_left hx 0x80) (by decide))
  rw [decodeParts, hoctet, if_pos ⟨hleast, hgreatest⟩, Nat.add_sub_cancel_left]

/-- and the last one completes the character. -/
theorem decodeParts_finish {code least greatest x : Nat} (hx : x < 64)
    (hleast : least ≤ 0x80 + x) (hgreatest : 0x80 + x ≤ greatest) :
    decodeParts (some ⟨code, 0, least, greatest⟩) (UInt8.ofNat (0x80 + x) :: rest) =
      some (Char.ofNat (code * 64 + x)) :: decodeParts none rest := by
  have hoctet : (UInt8.ofNat (0x80 + x)).toNat = 0x80 + x :=
    UInt8.toNat_ofNat_of_lt' (Nat.lt_of_lt_of_le (Nat.add_lt_add_left hx 0x80) (by decide))
  rw [decodeParts, hoctet, if_pos ⟨hleast, hgreatest⟩, Nat.add_sub_cancel_left]

/-! ### One character -/

/-- **One character is read back.** -/
theorem decodeParts_encodeChar (c : Char) :
    decodeParts none (encodeChar c ++ rest) = some c :: decodeParts none rest := by
  -- a character is no surrogate, which is what the narrower range after one lead asks for
  have hvalid : c.toNat < 0xD800 ∨ 0xDFFF < c.toNat ∧ c.toNat < 0x110000 := c.valid
  have hback : ∀ n, n = c.toNat → Char.ofNat n = c := by
    rintro n rfl
    exact Char.ofNat_toNat c
  rw [encodeChar]
  split_ifs with h1 h2 h3
  · rw [List.singleton_append, decodeParts_single (lead_one h1), hback _ rfl]
  · rw [List.cons_append, decodeParts_opens (lead_two (by omega) (by omega)), List.singleton_append,
      decodeParts_finish (by omega) (by omega) (by omega), hback _ (by omega)]
  · rw [List.cons_append, decodeParts_opens (lead_three (by omega)), List.cons_append,
      decodeParts_continue (by omega) (by split_ifs <;> omega) (by split_ifs <;> omega),
      List.singleton_append, decodeParts_finish (by omega) (by omega) (by omega),
      hback _ (by omega)]
  · rw [List.cons_append, decodeParts_opens (lead_four (by omega)), List.cons_append,
      decodeParts_continue (by omega) (by split_ifs <;> omega) (by split_ifs <;> omega),
      List.cons_append, decodeParts_continue (by omega) (by omega) (by omega),
      List.singleton_append, decodeParts_finish (by omega) (by omega) (by omega),
      hback _ (by omega)]

/-! ### Texts -/

theorem decodeParts_encode (cs : List Char) : decodeParts none (encode cs) = cs.map some := by
  induction cs with
  | nil => rfl
  | cons c cs ih =>
    rw [encode, List.flatMap_cons, decodeParts_encodeChar, ← encode, ih, List.map_cons]

/-- **A text is read back.** -/
theorem decode?_encode (cs : List Char) : decode? (encode cs) = some cs := by
  rw [decode?, decodeParts_encode]
  exact (mapM_eq_some_iff_eq_map fun _ _ ↦ Iff.rfl).2 rfl

/-- A text has no ill-formed part. -/
theorem decodeLossy_encode (cs : List Char) : decodeLossy (encode cs) = cs := by
  rw [decodeLossy, decodeParts_encode, List.map_map]
  exact List.map_id cs

/-- So two texts are not written the same way. -/
theorem encode_injective : Function.Injective encode := by
  intro cs cs' h
  have hdecode := congrArg decode? h
  rw [decode?_encode, decode?_encode] at hdecode
  exact Option.some.inj hdecode

/-! ### Nothing else is read -/

theorem toNat_ofNat {n : Nat} (h : n < 0xD800 ∨ 0xDFFF < n ∧ n < 0x110000) :
    (Char.ofNat n).toNat = n := by
  have hvalid : n.isValidChar := h
  rw [Char.ofNat, dif_pos hvalid]
  rfl

theorem encodeChar_one {n : Nat} (h : n < 0x80) : encodeChar (Char.ofNat n) = [UInt8.ofNat n] := by
  rw [encodeChar, toNat_ofNat (.inl (by omega)), if_pos h]

theorem encodeChar_two {m x : Nat} (h : 2 ≤ m) (h' : m < 32) (hx : x < 64) :
    encodeChar (Char.ofNat (m * 64 + x)) = [UInt8.ofNat (0xC0 + m), UInt8.ofNat (0x80 + x)] := by
  rw [encodeChar, toNat_ofNat (.inl (by omega)), if_neg (by omega), if_pos (by omega),
    show (m * 64 + x) / 64 = m by omega, show (m * 64 + x) % 64 = x by omega]

/-- The narrower ranges shut out what two octets can hold, and the surrogates. -/
theorem encodeChar_three {m x y : Nat} (h : m < 16) (hx : x < 64) (hy : y < 64)
    (hlong : m = 0 → 0x20 ≤ x) (hsurrogate : m = 13 → x < 0x20) :
    encodeChar (Char.ofNat ((m * 64 + x) * 64 + y)) =
      [UInt8.ofNat (0xE0 + m), UInt8.ofNat (0x80 + x), UInt8.ofNat (0x80 + y)] := by
  rw [encodeChar, toNat_ofNat (by omega), if_neg (by omega), if_neg (by omega), if_pos (by omega),
    show ((m * 64 + x) * 64 + y) / 4096 = m by omega,
    show ((m * 64 + x) * 64 + y) / 64 % 64 = x by omega,
    show ((m * 64 + x) * 64 + y) % 64 = y by omega]

/-- The narrower ranges shut out what three octets can hold, and what is no character. -/
theorem encodeChar_four {m x y z : Nat} (h : m < 5) (hx : x < 64) (hy : y < 64) (hz : z < 64)
    (hlong : m = 0 → 0x10 ≤ x) (hgreat : m = 4 → x < 0x10) :
    encodeChar (Char.ofNat (((m * 64 + x) * 64 + y) * 64 + z)) =
      [UInt8.ofNat (0xF0 + m), UInt8.ofNat (0x80 + x), UInt8.ofNat (0x80 + y),
        UInt8.ofNat (0x80 + z)] := by
  rw [encodeChar, toNat_ofNat (by omega), if_neg (by omega), if_neg (by omega), if_neg (by omega),
    show (((m * 64 + x) * 64 + y) * 64 + z) / 262144 = m by omega,
    show (((m * 64 + x) * 64 + y) * 64 + z) / 4096 % 64 = x by omega,
    show (((m * 64 + x) * 64 + y) * 64 + z) / 64 % 64 = y by omega,
    show (((m * 64 + x) * 64 + y) * 64 + z) % 64 = z by omega]

variable {bs : List UInt8} {cs : List Char}

/-- A sequence that is read without an ill-formed part goes on with an octet in its range, -/
theorem exists_octet_of_decodeParts {s : Sequence} (hleast : 0x80 ≤ s.least)
    (hgreatest : s.greatest ≤ 0xBF) (h : decodeParts (some s) bs = cs.map some) :
    ∃ x rest, x < 64 ∧ bs = UInt8.ofNat (0x80 + x) :: rest ∧
      s.least ≤ 0x80 + x ∧ 0x80 + x ≤ s.greatest := by
  cases bs with
  | nil => cases cs <;> cases h
  | cons b rest =>
    rw [decodeParts] at h
    split at h
    · next hrange =>
      have hsum : 0x80 + (b.toNat - 0x80) = b.toNat := by omega
      refine ⟨b.toNat - 0x80, rest, by omega, by rw [hsum, UInt8.ofNat_toNat], ?_⟩
      rwa [hsum]
    · cases cs <;> cases h

/-- which continues it, -/
theorem continue_of_decodeParts {code after least greatest : Nat} (hleast : 0x80 ≤ least)
    (hgreatest : greatest ≤ 0xBF)
    (h : decodeParts (some ⟨code, after + 1, least, greatest⟩) bs = cs.map some) :
    ∃ x rest, x < 64 ∧ bs = UInt8.ofNat (0x80 + x) :: rest ∧ least ≤ 0x80 + x ∧
      0x80 + x ≤ greatest ∧
      decodeParts (some ⟨code * 64 + x, after, 0x80, 0xBF⟩) rest = cs.map some := by
  obtain ⟨x, rest, hx, rfl, hl, hg⟩ := exists_octet_of_decodeParts hleast hgreatest h
  rw [decodeParts_continue hx hl hg] at h
  exact ⟨x, rest, hx, rfl, hl, hg, h⟩

/-- or completes it. -/
theorem finish_of_decodeParts {code least greatest : Nat} (hleast : 0x80 ≤ least)
    (hgreatest : greatest ≤ 0xBF)
    (h : decodeParts (some ⟨code, 0, least, greatest⟩) bs = cs.map some) :
    ∃ x rest, x < 64 ∧ bs = UInt8.ofNat (0x80 + x) :: rest ∧ least ≤ 0x80 + x ∧
      0x80 + x ≤ greatest ∧
      some (Char.ofNat (code * 64 + x)) :: decodeParts none rest = cs.map some := by
  obtain ⟨x, rest, hx, rfl, hl, hg⟩ := exists_octet_of_decodeParts hleast hgreatest h
  rw [decodeParts_finish hx hl hg] at h
  exact ⟨x, rest, hx, rfl, hl, hg, h⟩

/-- The leads that open a sequence, one range for each length. -/
theorem lead_eq_opens {b : UInt8} {s : Sequence} (h : lead b = .opens s) :
    (∃ m, 2 ≤ m ∧ m < 32 ∧ b = UInt8.ofNat (0xC0 + m) ∧ s = ⟨m, 0, 0x80, 0xBF⟩) ∨
    (∃ m, m < 16 ∧ b = UInt8.ofNat (0xE0 + m) ∧
      s = ⟨m, 1, if m = 0 then 0xA0 else 0x80, if m = 13 then 0x9F else 0xBF⟩) ∨
    ∃ m, m < 5 ∧ b = UInt8.ofNat (0xF0 + m) ∧
      s = ⟨m, 2, if m = 0 then 0x90 else 0x80, if m = 4 then 0x8F else 0xBF⟩ := by
  have hsplit : ∀ base, base ≤ b.toNat → b = UInt8.ofNat (base + (b.toNat - base)) := by
    intro base hbase
    rw [Nat.add_sub_cancel' hbase, UInt8.ofNat_toNat]
  rcases Nat.lt_or_ge b.toNat 0x80 with h1 | h1
  · rw [lead, if_pos h1] at h
    cases h
  rcases Nat.lt_or_ge b.toNat 0xC2 with h2 | h2
  · rw [lead, if_neg (by omega), if_pos h2] at h
    cases h
  rcases Nat.lt_or_ge b.toNat 0xE0 with h3 | h3
  · have hb := hsplit 0xC0 (by omega)
    rw [hb, lead_two (by omega) (by omega)] at h
    exact .inl ⟨_, by omega, by omega, hb, (Lead.opens.inj h).symm⟩
  rcases Nat.lt_or_ge b.toNat 0xF0 with h4 | h4
  · have hb := hsplit 0xE0 h3
    rw [hb, lead_three (by omega)] at h
    exact .inr (.inl ⟨_, by omega, hb, (Lead.opens.inj h).symm⟩)
  rcases Nat.lt_or_ge b.toNat 0xF5 with h5 | h5
  · have hb := hsplit 0xF0 h4
    rw [hb, lead_four (by omega)] at h
    exact .inr (.inr ⟨_, by omega, hb, (Lead.opens.inj h).symm⟩)
  · rw [lead, if_neg (by omega), if_neg (by omega), if_neg (by omega), if_neg (by omega),
      if_neg (by omega)] at h
    cases h

/-- A lead that is a character by itself is the one octet of it. -/
theorem lead_eq_single {b : UInt8} {c : Char} (h : lead b = .single c) : [b] = encodeChar c := by
  rcases Nat.lt_or_ge b.toNat 0x80 with h1 | h1
  · rw [lead, if_pos h1] at h
    rw [← Lead.single.inj h, encodeChar_one h1, UInt8.ofNat_toNat]
  · rw [lead, if_neg (Nat.not_lt.2 h1)] at h
    split_ifs at h

/-- **The octets that are read begin with those of the first character.** -/
theorem exists_char_of_decodeParts {b : UInt8} (h : decodeParts none (b :: bs) = cs.map some) :
    ∃ c rest, b :: bs = encodeChar c ++ rest ∧ some c :: decodeParts none rest = cs.map some := by
  rw [decodeParts] at h
  split at h
  · next c hlead => exact ⟨c, bs, by rw [← lead_eq_single hlead]; rfl, h⟩
  · next s hlead =>
    obtain ⟨m, hm, hm', rfl, rfl⟩ | ⟨m, hm, rfl, rfl⟩ | ⟨m, hm, rfl, rfl⟩ := lead_eq_opens hlead
    · obtain ⟨x, rest, hx, rfl, -, -, hrest⟩ := finish_of_decodeParts le_rfl le_rfl h
      exact ⟨_, rest, by rw [encodeChar_two hm hm' hx]; rfl, hrest⟩
    · obtain ⟨x, rest, hx, rfl, hl, hg, h⟩ :=
        continue_of_decodeParts (by split_ifs <;> omega) (by split_ifs <;> omega) h
      obtain ⟨y, rest, hy, rfl, -, -, hrest⟩ := finish_of_decodeParts le_rfl le_rfl h
      have hchar := encodeChar_three hm hx hy (by split_ifs at hl <;> omega)
        (by split_ifs at hg <;> omega)
      exact ⟨_, rest, by rw [hchar]; rfl, hrest⟩
    · obtain ⟨x, rest, hx, rfl, hl, hg, h⟩ :=
        continue_of_decodeParts (by split_ifs <;> omega) (by split_ifs <;> omega) h
      obtain ⟨y, rest, hy, rfl, -, -, h⟩ := continue_of_decodeParts le_rfl le_rfl h
      obtain ⟨z, rest, hz, rfl, -, -, hrest⟩ := finish_of_decodeParts le_rfl le_rfl h
      have hchar := encodeChar_four hm hx hy hz (by split_ifs at hl <;> omega)
        (by split_ifs at hg <;> omega)
      exact ⟨_, rest, by rw [hchar]; rfl, hrest⟩
  · cases cs <;> cases h

theorem eq_encode_of_decodeParts (h : decodeParts none bs = cs.map some) : bs = encode cs := by
  induction cs generalizing bs with
  | nil =>
    cases bs with
    | nil => rfl
    | cons b bs =>
      obtain ⟨c, rest, -, hrest⟩ := exists_char_of_decodeParts h
      cases hrest
  | cons c cs ih =>
    cases bs with
    | nil => cases h
    | cons b bs =>
      obtain ⟨c', rest, hbs, hrest⟩ := exists_char_of_decodeParts h
      rw [List.map_cons, List.cons.injEq, Option.some.injEq] at hrest
      obtain ⟨rfl, hrest⟩ := hrest
      rw [hbs, ih hrest, encode, encode, List.flatMap_cons]

/-- **The octets that are read as a text are those of the text.** -/
theorem decode?_eq_some_iff : decode? bs = some cs ↔ bs = encode cs := by
  constructor
  · exact fun h ↦ eq_encode_of_decodeParts ((mapM_eq_some_iff_eq_map fun _ _ ↦ Iff.rfl).1 h)
  · rintro rfl
    exact decode?_encode cs

end AccountDirectory.Text.Utf8
