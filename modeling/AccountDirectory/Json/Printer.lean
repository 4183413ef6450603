import AccountDirectory.Json.Value

/-!
# Writing JSON

`compact` writes a value without any blank; `pretty` puts each item and member on a line of its own,
two spaces deeper than its container. A string is written with its characters as they are, except
the quotation mark, the backslash and the controls below U+0020, which are escaped.
-/

namespace AccountDirectory.Json

/-- The lower-case hexadecimal digit of a value below 16. -/
def hexDigit (n : Nat) : Char := if n < 10 then Char.ofNat (n + 48) else Char.ofNat (n + 87)

/-- The escape of a UTF-16 unit. -/
def unitEscape (n : Nat) : List Char :=
  ['\\', 'u', hexDigit (n / 4096 % 16), hexDigit (n / 256 % 16), hexDigit (n / 16 % 16),
    hexDigit (n % 16)]

/-- The written form of a character inside a string. -/
def charText (c : Char) : List Char :=
  if c = '"' then ['\\', '"']
  else if c = '\\' then ['\\', '\\']
  else if c = '\x08' then ['\\', 'b']
  else if c = '\x0c' then ['\\', 'f']
  else if c = '\n' then ['\\', 'n']
  else if c = '\r' then ['\\', 'r']
  else if c = '\t' then ['\\', 't']
  else if c.toNat < 0x20 then unitEscape c.toNat
  else [c]

/-- The written form of a string. -/
def stringText (s : String) : List Char := '"' :: s.toList.flatMap charText ++ ['"']

/-- The written form of a truth value. -/
def boolText (b : Bool) : List Char := if b then "true".toList else "false".toList

namespace Value

mutual

/-- The written form without blanks. -/
def compactText : Value → List Char
  | .null => "null".toList
  | .bool b => boolText b
  | .number n => n.text
  | .text s => stringText s
  | .list [] => ['[', ']']
  | .list (v :: rest) => '[' :: compactText v ++ compactItems rest ++ [']']
  | .object [] => ['\x7b', '\x7d']
  | .object ((key, v) :: rest) =>
    '\x7b' :: stringText key ++ ':' :: compactText v ++ compactMembers rest ++ ['\x7d']

/-- The items after the first one. -/
def compactItems : List Value → List Char
  | [] => []
  | v :: rest => ',' :: compactText v ++ compactItems rest

/-- The members after the first one. -/
def compactMembers : List (String × Value) → List Char
  | [] => []
  | (key, v) :: rest => ',' :: stringText key ++ ':' :: compactText v ++ compactMembers rest

end

/-- The written form without blanks. -/
def compact (v : Value) : String := String.ofList v.compactText

/-- A line break and the indentation of a depth. -/
def lineBreak (depth : Nat) : List Char := '\n' :: List.replicate (2 * depth) ' '

mutual

/-- The written form on lines, inside `depth` containers. -/
def prettyText (depth : Nat) : Value → List Char
  | .null => "null".toList
  | .bool b => boolText b
  | .number n => n.text
  | .text s => stringText s
  | .list [] => ['[', ']']
  | .list (v :: rest) =>
    '[' :: lineBreak (depth + 1) ++ prettyText (depth + 1) v ++ prettyItems (depth + 1) rest ++
      lineBreak depth ++ [']']
  | .object [] => ['\x7b', '\x7d']
  | .object ((key, v) :: rest) =>
    '\x7b' :: lineBreak (depth + 1) ++ stringText key ++ ':' :: ' ' :: prettyText (depth + 1) v ++
      prettyMembers (depth + 1) rest ++ lineBreak depth ++ ['\x7d']

/-- The items after the first one. -/
def prettyItems (depth : Nat) : List Value → List Char
  | [] => []
  | v :: rest => ',' :: lineBreak depth ++ prettyText depth v ++ prettyItems depth rest

/-- The members after the first one. -/
def prettyMembers (depth : Nat) : List (String × Value) → List Char
  | [] => []
  | (key, v) :: rest =>
    ',' :: lineBreak depth ++ stringText key ++ ':' :: ' ' :: prettyText depth v ++
      prettyMembers depth rest

end

/-- The written form on lines. -/
def pretty (v : Value) : String := String.ofList (v.prettyText 0)

end Value

end AccountDirectory.Json
