import AccountDirectory.Json.Number
import AccountDirectory.Number.Digits

/-!
# Tokens of JSON text

`Token.scan` cuts a text into tokens, one character at a time: the `Mode` says what the characters
so far belong to. Between tokens only space, tab, line feed and carriage return may stand.

A string token keeps whether its escapes spell Unicode text: `\uXXXX` gives a UTF-16 unit, a high
surrogate directly followed by a low one is one character, and any other surrogate leaves the string
without a text (`none`). Such a string is still well-formed JSON.
-/

namespace AccountDirectory.Json

/-- A token of JSON text. -/
inductive Token
  | openList
  | closeList
  | openObject
  | closeObject
  | comma
  | colon
  | null
  | bool (b : Bool)
  | number (lit : Literal)
  | text (content : Option String)
  deriving DecidableEq

namespace Token

/-- The blanks that may stand between tokens. -/
def isSpace (c : Char) : Bool := c == ' ' || c == '\t' || c == '\n' || c == '\r'

/-- The characters that a number consists of. -/
def isNumberChar (c : Char) : Bool :=
  c.isDigit || c == '-' || c == '+' || c == '.' || c == 'e' || c == 'E'

/-- The text spelled by scalar values and UTF-16 surrogates; a surrogate without its partner spells
none. -/
def joinSurrogates : List Nat → Option (List Char)
  | [] => some []
  | high :: rest =>
    if 0xD800 ≤ high ∧ high < 0xDC00 then
      match rest with
      | low :: rest =>
        if 0xDC00 ≤ low ∧ low < 0xE000 then
          (joinSurrogates rest).map
            (Char.ofNat (0x10000 + (high - 0xD800) * 0x400 + (low - 0xDC00)) :: ·)
        else none
      | [] => none
    else if 0xDC00 ≤ high ∧ high < 0xE000 then none
    else (joinSurrogates rest).map (Char.ofNat high :: ·)

/-- What the characters so far belong to; gathered characters stand last first. -/
inductive Mode
  | between
  | word (letters : List Char)
  | number (chars : List Char)
  /-- Inside a string. -/
  | text (units : List Nat)
  /-- Inside a string, after a backslash. -/
  | escape (units : List Nat)
  /-- Inside a string, `left + 1` digits before the end of a `\u` escape. -/
  | hex (units : List Nat) (left value : Nat)

/-- The token that a bare word spells. -/
def ofWord? (letters : List Char) : Option Token :=
  if letters = "null".toList then some .null
  else if letters = "true".toList then some (.bool true)
  else if letters = "false".toList then some (.bool false)
  else none

/-- The mode that a character between tokens leads to, and the token that it makes by itself. -/
def enter (c : Char) : Option (Option Token × Mode) :=
  if isSpace c then some (none, .between)
  else if c = '[' then some (some .openList, .between)
  else if c = ']' then some (some .closeList, .between)
  else if c = '\x7b' then some (some .openObject, .between)
  else if c = '\x7d' then some (some .closeObject, .between)
  else if c = ',' then some (some .comma, .between)
  else if c = ':' then some (some .colon, .between)
  else if c = '"' then some (none, .text [])
  else if c.isDigit || c == '-' then some (none, .number [c])
  else if c.isLower then some (none, .word [c])
  else none

/-- The unit that a one-letter escape stands for. -/
def escaped? (c : Char) : Option Nat :=
  if c = '"' ∨ c = '\\' ∨ c = '/' then some c.toNat
  else if c = 'b' then some 8
  else if c = 'f' then some 12
  else if c = 'n' then some 10
  else if c = 'r' then some 13
  else if c = 't' then some 9
  else none

/-- One character: the tokens that it completes, first one first, and the mode after it. -/
def step (mode : Mode) (c : Char) : Option (List Token × Mode) :=
  match mode with
  | .between => (enter c).map fun (t, m) ↦ (t.toList, m)
  | .word letters =>
    if c.isLower then some ([], .word (c :: letters))
    else do
      let word ← ofWord? letters.reverse
      let (t, m) ← enter c
      some (word :: t.toList, m)
  | .number chars =>
    if isNumberChar c then some ([], .number (c :: chars))
    else do
      let lit ← Literal.ofChars? chars.reverse
      let (t, m) ← enter c
      some (.number lit :: t.toList, m)
  | .text units =>
    if c = '"' then
      some ([.text ((joinSurrogates units.reverse).map String.ofList)], .between)
    else if c = '\\' then some ([], .escape units)
    else if c.toNat < 0x20 then none
    else some ([], .text (c.toNat :: units))
  | .escape units =>
    if c = 'u' then some ([], .hex units 3 0)
    else (escaped? c).map fun unit ↦ ([], .text (unit :: units))
  | .hex units left value => do
    let digit ← Digits.hexValue? c
    let value := value * 16 + digit
    match left with
    | 0 => some ([], .text (value :: units))
    | left + 1 => some ([], .hex units left value)

/-- The token that the end of the text completes. -/
def finish : Mode → Option (List Token)
  | .between => some []
  | .word letters => (ofWord? letters.reverse).map ([·])
  | .number chars => (Literal.ofChars? chars.reverse).map fun lit ↦ [.number lit]
  | .text _ | .escape _ | .hex .. => none

/-- The tokens of the characters from a mode on. -/
def scanFrom (mode : Mode) : List Char → Option (List Token)
  | [] => finish mode
  | c :: rest => do
    let (tokens, mode) ← step mode c
    let later ← scanFrom mode rest
    some (tokens ++ later)

/-- The tokens of a text. -/
def scan (cs : List Char) : Option (List Token) := scanFrom .between cs

end Token

end AccountDirectory.Json
