import AccountDirectory.Yaml.Text
import AccountDirectory.Number.Digits

/-!
# Tags of YAML text

A tag is written as a handle and a suffix, or in full between angle brackets. Its text may hold
octets escaped with percent signs, which gather into sequences that begin like those of UTF-8, so a
tag is a list of octets.
-/

namespace AccountDirectory.Yaml

/-- The octets that a tag consists of. -/
abbrev Tag : Type := List UInt8

namespace Tag

/-- The tag that a text spells. -/
def ofText (s : String) : Tag := Text.Utf8.encode s.toList

/-- The characters that stand in tags unescaped. -/
def isPlainChar (c : Char) : Bool := isNameChar c || ";/?:@&=+$.!~*'()".toList.contains c

/-- How many octets follow an octet that begins a sequence. -/
def followers? (octet : Nat) : Option Nat :=
  if octet < 0x80 then some 0
  else if octet < 0xC0 then none
  else if octet < 0xE0 then some 1
  else if octet < 0xF0 then some 2
  else if octet < 0xF8 then some 3
  else none

/-- How many octets are to follow after one more, when `due` were to follow before it. -/
def dueAfter? (due octet : Nat) : Option Nat :=
  match due with
  | 0 => followers? octet
  | due + 1 => if 0x80 ≤ octet ∧ octet < 0xC0 then some due else none

/-- Reads the characters of a tag on, with commas and square brackets or without, where `due`
escaped octets must follow to complete a sequence. -/
def octetsFrom (brackets : Bool) (due : Nat) : List Char → Option (Tag × List Char)
  | '%' :: a :: b :: rest => do
    let octet := (← Digits.hexValue? a) * 16 + (← Digits.hexValue? b)
    let (later, rest) ← octetsFrom brackets (← dueAfter? due octet) rest
    some (UInt8.ofNat octet :: later, rest)
  | c :: rest =>
    if due ≠ 0 ∨ c = '%' then none
    else if isPlainChar c || (brackets && ",[]".toList.contains c) then do
      let (later, rest) ← octetsFrom brackets 0 rest
      some (Text.Utf8.encodeChar c ++ later, rest)
    else some ([], c :: rest)
  | [] => if due = 0 then some ([], []) else none

/-- Reads the characters of a tag, at least one. -/
def octets (brackets : Bool) (cs : List Char) : Option (Tag × List Char) := do
  let (tag, rest) ← octetsFrom brackets 0 cs
  if tag.isEmpty then none else some (tag, rest)

/-- Reads a handle behind its first exclamation mark: its name and whether a second mark ends it. -/
def handle (cs : List Char) : List Char × Bool × List Char :=
  let name := cs.takeWhile isNameChar
  let rest := cs.drop name.length
  match rest with
  | '!' :: rest => (name, true, rest)
  | rest => (name, false, rest)

/-- A tag as it is written. -/
inductive Written
  /-- The tag itself. -/
  | full (tag : Tag)
  /-- A suffix under the handle with this name between exclamation marks; `none` for the single
  exclamation mark. -/
  | short (name : Option (List Char)) (suffix : Tag)

/-- Reads a tag behind its first exclamation mark. -/
def read (cs : List Char) : Option (Written × List Char) :=
  match cs with
  | '<' :: rest => do
    let (tag, rest) ← octets true rest
    match rest with
    | '>' :: rest => some (.full tag, rest)
    | _ => none
  | cs =>
    match handle cs with
    | (name, true, rest) => do
      let (suffix, rest) ← octets false rest
      some (.short (some name) suffix, rest)
    | (_, false, _) => do
      let (suffix, rest) ← octetsFrom false 0 cs
      some (if suffix.isEmpty then .full (ofText "!") else .short none suffix, rest)

/-- The name of a local tag: what is behind the exclamation mark, if it spells a text, or the mark
itself when it stands alone. -/
def localName? (tag : Tag) : Option (List Char) :=
  match tag with
  | 0x21 :: rest => if rest.isEmpty then some ['!'] else Text.Utf8.decode? rest
  | _ => none

end Tag

end AccountDirectory.Yaml
