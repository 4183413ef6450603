/-!
# Octets and characters in UTF-8

The decoder reads one octet at a time and remembers the sequence that it is inside of
(`Sequence`): how many octets are to come and which range the next one must lie in. The range is
narrower after the leads `E0`, `ED`, `F0` and `F4`, which is what shuts out overlong forms,
surrogates and values above `10FFFF`.

* `decode?` refuses any ill-formed octet.
* `decodeLossy` puts U+FFFD for each maximal ill-formed part.
-/

namespace AccountDirectory.Text.Utf8

/-! ### Writing -/

/-- The octets of one character. -/
def encodeChar (c : Char) : List UInt8 :=
  let n := c.toNat
  if n < 0x80 then [UInt8.ofNat n]
  else if n < 0x800 then [UInt8.ofNat (0xC0 + n / 64), UInt8.ofNat (0x80 + n % 64)]
  else if n < 0x10000 then
    [UInt8.ofNat (0xE0 + n / 4096), UInt8.ofNat (0x80 + n / 64 % 64), UInt8.ofNat (0x80 + n % 64)]
  else
    [UInt8.ofNat (0xF0 + n / 262144), UInt8.ofNat (0x80 + n / 4096 % 64),
      UInt8.ofNat (0x80 + n / 64 % 64), UInt8.ofNat (0x80 + n % 64)]

/-- The octets of a text. -/
def encode (cs : List Char) : List UInt8 := cs.flatMap encodeChar

/-! ### Reading -/

/-- A sequence whose lead has been read. -/
structure Sequence where
  /-- The value of the octets so far. -/
  code : Nat
  /-- How many octets follow the next one. -/
  after : Nat
  /-- The least octet that may come next. -/
  least : Nat
  /-- The greatest octet that may come next. -/
  greatest : Nat

/-- What an octet means where a sequence may begin. -/
inductive Lead
  | single (c : Char)
  | opens (s : Sequence)
  | illFormed

/-- Reads an octet where a sequence may begin. -/
def lead (b : UInt8) : Lead :=
  let n := b.toNat
  if n < 0x80 then .single (Char.ofNat n)
  else if n < 0xC2 then .illFormed
  else if n < 0xE0 then .opens ⟨n - 0xC0, 0, 0x80, 0xBF⟩
  else if n < 0xF0 then
    .opens ⟨n - 0xE0, 1, if n = 0xE0 then 0xA0 else 0x80, if n = 0xED then 0x9F else 0xBF⟩
  else if n < 0xF5 then
    .opens ⟨n - 0xF0, 2, if n = 0xF0 then 0x90 else 0x80, if n = 0xF4 then 0x8F else 0xBF⟩
  else .illFormed

/-- The characters of an octet string, `none` for each maximal ill-formed part. An octet that cannot
continue a sequence ends it and is read anew. -/
def decodeParts : Option Sequence → List UInt8 → List (Option Char)
  | none, [] => []
  | some _, [] => [none]
  | none, b :: rest =>
    match lead b with
    | .single c => some c :: decodeParts none rest
    | .opens s => decodeParts (some s) rest
    | .illFormed => none :: decodeParts none rest
  | some s, b :: rest =>
    if s.least ≤ b.toNat ∧ b.toNat ≤ s.greatest then
      let code := s.code * 64 + (b.toNat - 0x80)
      match s.after with
      | 0 => some (Char.ofNat code) :: decodeParts none rest
      | after + 1 => decodeParts (some ⟨code, after, 0x80, 0xBF⟩) rest
    else
      none ::
        match lead b with
        | .single c => some c :: decodeParts none rest
        | .opens s => decodeParts (some s) rest
        | .illFormed => none :: decodeParts none rest

/-- The text with these octets, if they are well formed. -/
def decode? (bs : List UInt8) : Option (List Char) := (decodeParts none bs).mapM id

/-- The text with these octets, each maximal ill-formed part replaced by U+FFFD. -/
def decodeLossy (bs : List UInt8) : List Char :=
  (decodeParts none bs).map fun part ↦ part.getD '\uFFFD'

end AccountDirectory.Text.Utf8
