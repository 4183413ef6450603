import AccountDirectory.Number.Digits
import AccountDirectory.Text.Utf8

/-!
# Percent escapes

`encode` keeps the unreserved characters (letters and digits of ASCII, `-`, `_`, `.`, `~`) and
writes every other octet of the UTF-8 form as `%XX`, so nothing that it writes can end a path
segment or a query pair. `decode` is the reader on the other side of a request.
-/

namespace AccountDirectory.Text.Percent

/-- The characters that stand for themselves in every part of a URL. -/
def isUnreserved (c : Char) : Bool := c.isAlphanum || c == '-' || c == '_' || c == '.' || c == '~'

/-- The capital hexadecimal digit of a value below 16. -/
def hexDigit (n : Nat) : Char := if n < 10 then Char.ofNat (n + 48) else Char.ofNat (n + 55)

/-- The escape of one octet. -/
def escapeOctet (b : UInt8) : List Char := ['%', hexDigit (b.toNat / 16), hexDigit (b.toNat % 16)]

/-- The escaped form of one character. -/
def encodeChar (c : Char) : List Char :=
  if isUnreserved c then [c] else (Utf8.encodeChar c).flatMap escapeOctet

/-- The escaped form of a text. -/
def encode (cs : List Char) : List Char := cs.flatMap encodeChar

/-- The text with everything escaped that is no visible character of ASCII or stands in a set. -/
def escape (set : List Char) (cs : List Char) : List Char :=
  cs.flatMap fun c ↦
    if c.toNat < 0x20 || 0x7E < c.toNat || set.contains c then
      (Utf8.encodeChar c).flatMap escapeOctet
    else [c]

/-- Reads escapes; a `%` that opens no escape stands for itself. -/
def decode : List Char → List UInt8
  | '%' :: a :: b :: rest =>
    match Digits.hexValue? a, Digits.hexValue? b with
    | some x, some y => UInt8.ofNat (x * 16 + y) :: decode rest
    | _, _ => UInt8.ofNat 37 :: decode (a :: b :: rest)
  | c :: rest => Utf8.encodeChar c ++ decode rest
  | [] => []

end AccountDirectory.Text.Percent
