import AccountDirectory.Number.Decimal
import AccountDirectory.Yaml.Tag

/-!
# What scalars stand for

A plain scalar without a tag stands for nothing, a truth value, an integer, a fraction or a text,
by how it is spelled (`Scalar.ofPlain`). Any other scalar is a text, unless one of the standard tags
asks for something else.

Integers are decimal, hexadecimal, octal or binary, and have at most 128 bits. Decimal digits with a
zero before them spell no number.
-/

namespace AccountDirectory.Yaml

/-- What a scalar stands for. -/
inductive Scalar
  | nothing
  | bool (b : Bool)
  | integer (n : Int)
  | fraction
  | text (s : String)

namespace Scalar

/-- The words for nothing. -/
def nothingWords : List String := ["null", "Null", "NULL", "~"]

/-- The truth value that a text spells. -/
def bool? (s : String) : Option Bool :=
  if ["true", "True", "TRUE"].contains s then some true
  else if ["false", "False", "FALSE"].contains s then some false
  else none

/-- The text without one sign before it, and whether that is a minus. -/
def unsigned : List Char → Bool × List Char
  | '-' :: rest => (true, rest)
  | '+' :: rest => (false, rest)
  | rest => (false, rest)

/-- A sign or none, and digits with a zero before them. -/
def hasLeadingZero (cs : List Char) : Bool :=
  match (unsigned cs).2 with
  | '0' :: c :: rest => (c :: rest).all Char.isDigit
  | _ => false

/-- The natural that the digits spell in a base, with at least one digit. -/
def natural? (base : Nat) (digits : List Char) : Option Nat :=
  if digits.isEmpty then none else Digits.value? base digits

/-- The integer that a text spells. -/
def integer? (cs : List Char) : Option Int := do
  let (negative, digits) := unsigned cs
  let n ←
    match digits with
    | '0' :: 'x' :: digits => natural? 16 digits
    | '0' :: 'o' :: digits => natural? 8 digits
    | '0' :: 'b' :: digits => natural? 2 digits
    | digits => if hasLeadingZero cs then none else natural? 10 digits
  if negative then if n ≤ 0x80000000000000000000000000000000 then some (-(n : Int)) else none
  else if n < 0x100000000000000000000000000000000 then some n
  else none

/-- The words for the infinities and for what is not a number. -/
def fractionWords : List String :=
  [".inf", ".Inf", ".INF", "+.inf", "+.Inf", "+.INF", "-.inf", "-.Inf", "-.INF", ".nan", ".NaN",
    ".NAN"]

/-- The text spells a fraction. -/
def isFraction (s : String) : Bool :=
  fractionWords.contains s || (Decimal.ofChars? s.toList).any (·.isFinite)

/-- What a plain scalar stands for. -/
def ofPlain (s : String) : Scalar :=
  if s.isEmpty || nothingWords.contains s then .nothing
  else
    match bool? s, integer? s.toList with
    | some b, _ => .bool b
    | none, some n => .integer n
    | none, none => if !(hasLeadingZero s.toList) && isFraction s then .fraction else .text s

/-- The standard tag of this name. -/
def standardTag (name : String) : Tag := Tag.ofText ("tag:yaml.org,2002:" ++ name)

/-- What a scalar stands for, when its text has what its tag asks for. A tag with an exclamation mark
before it asks for nothing. -/
def of? (tag : Option Tag) (plain : Bool) (s : String) : Option Scalar :=
  match tag with
  | none => some (if plain then ofPlain s else .text s)
  | some tag =>
    if tag = standardTag "bool" then (bool? s).map .bool
    else if tag = standardTag "int" then (integer? s.toList).map .integer
    else if tag = standardTag "float" then if isFraction s then some .fraction else none
    else if tag = standardTag "null" then if nothingWords.contains s then some .nothing else none
    else some (if plain && tag.head? == some 0x21 then ofPlain s else .text s)

end Scalar

end AccountDirectory.Yaml
