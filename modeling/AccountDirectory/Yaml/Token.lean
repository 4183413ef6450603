import AccountDirectory.Yaml.Scalar
import AccountDirectory.Yaml.Tag

/-!
# Tokens of YAML text

`Token.scan?` cuts a text into tokens. Indentation becomes tokens too: the collections of block
style are opened where a line is indented deeper and closed where a later line is indented less.

**Keys are found late.** A key without the indicator `?` shows only at the colon behind it. So the
scanner remembers where a key may have begun (`PossibleKey`), one place per flow collection around
it, and puts the key token in there when it meets the colon. A possible key ends with its line, and
after 1024 octets.

**Anchors are numbered.** An anchor gets as its number how many names there were before it. A name
that is used again counts once, so its new number may later be given to another name too; the last
anchor with a number is the one that its aliases stand for.

## Margins

The `margin` of a block collection is one more than its column, and zero outside of all collections:
it is the least indentation of what belongs to an entry. The margins of the open collections fall
strictly from the innermost to the outermost.
-/

namespace AccountDirectory.Yaml

/-- A token of YAML text. -/
inductive Token
  | versionDirective
  /-- Binds the handle with this name between exclamation marks, or the single mark. -/
  | tagDirective (handle : Option (List Char)) (leading : Tag)
  | documentStart
  | documentEnd
  | blockListStart
  | blockTableStart
  | blockEnd
  | flowListStart
  | flowListEnd
  | flowTableStart
  | flowTableEnd
  | blockEntry
  | flowEntry
  | key
  | value
  /-- An alias of the node that carries the anchor with this number. -/
  | aliasOf (anchor : Nat)
  | anchor (number : Nat)
  | tag (written : Tag.Written)
  | scalar (plain : Bool) (text : List Char)

namespace Token

/-- Where a key may have begun. -/
structure PossibleKey where
  /-- How many tokens stand before it. -/
  before : Nat
  /-- Where it begins. -/
  cursor : Cursor
  /-- Nothing but a key may stand there. -/
  isRequired : Bool

/-- A text that is being cut into tokens. -/
structure Scan where
  cursor : Cursor
  /-- The tokens so far, last first. -/
  tokens : List Token := []
  /-- The margins of the open block collections, innermost first. -/
  margins : List Nat := []
  /-- Where a key may have begun. -/
  possible : Option PossibleKey := none
  /-- The same for the collections around each open flow collection, innermost first. -/
  outer : List (Option PossibleKey) := []
  /-- A key may begin here. -/
  keyAllowed : Bool := true
  /-- The names of the anchors so far and the number that each of them stands for now. -/
  anchors : List (List Char × Nat) := []

namespace Scan

/-- The scan is inside a flow collection. -/
def inFlow (s : Scan) : Bool := !s.outer.isEmpty

/-- The margin of the innermost block collection. -/
def margin (s : Scan) : Nat := s.margins.headD 0

/-- Adds a token. -/
def push (s : Scan) (t : Token) : Scan := { s with tokens := t :: s.tokens }

/-- Puts tokens in behind the first ones. -/
def insert (s : Scan) (before : Nat) (ts : List Token) : Scan :=
  let newer := s.tokens.take (s.tokens.length - before)
  let older := s.tokens.drop (s.tokens.length - before)
  { s with tokens := newer ++ ts.reverse ++ older }

/-- Moves behind characters of the same line. -/
def skip (s : Scan) (n : Nat) : Scan := { s with cursor := s.cursor.skip n }

/-! ### Between tokens -/

/-- The place of the next token, and whether a key may begin there. Tabs count as blanks only where
no key may begin. -/
def gapFrom (flow comment keyAllowed : Bool) (line column : Nat) : List Char → Bool × Cursor
  | [] => (keyAllowed, ⟨[], line, column⟩)
  | c :: rest =>
    if isBreak c then gapFrom flow false (keyAllowed || !flow) (line + 1) 0 rest
    else if comment then gapFrom flow true keyAllowed line (column + 1) rest
    else if c = '#' then gapFrom flow true keyAllowed line (column + 1) rest
    else if c = ' ' || (c = '\t' && (flow || !keyAllowed)) || (c = byteOrderMark && column = 0) then
      gapFrom flow false keyAllowed line (column + 1) rest
    else (keyAllowed, ⟨c :: rest, line, column⟩)

/-- Moves to the next token. -/
def skipGap (s : Scan) : Scan :=
  let (keyAllowed, cursor) :=
    gapFrom s.inFlow false s.keyAllowed s.cursor.line s.cursor.column s.cursor.rest
  { s with cursor, keyAllowed }

/-- Closes the block collections with margins greater than this; inside a flow collection none. -/
def close (s : Scan) (most : Nat) : Scan :=
  if s.inFlow then s
  else
    let closed := s.margins.takeWhile (most < ·)
    { s with
      tokens := List.replicate closed.length .blockEnd ++ s.tokens
      margins := s.margins.drop closed.length }

/-- The token that opens a block collection at this column, when one opens there. -/
def opened (s : Scan) (column : Nat) (t : Token) : List Token :=
  if !s.inFlow && s.margin ≤ column then [t] else []

/-- Opens a block collection at this column, when one opens there. -/
def enter (s : Scan) (column : Nat) : Scan :=
  if !s.inFlow && s.margin ≤ column then { s with margins := (column + 1) :: s.margins } else s

/-! ### Keys -/

/-- Gives up the possible key; one that is required cannot be given up. -/
def forget? (s : Scan) : Option Scan :=
  if s.possible.any (·.isRequired) then none else some { s with possible := none }

/-- Remembers that a key may begin here, if one may. -/
def remember? (s : Scan) : Option Scan :=
  if s.keyAllowed then do
    let s' ← s.forget?
    let isRequired := !s.inFlow && s.margin == s.cursor.column + 1
    some { s' with
      possible := some ⟨s.tokens.length, s.cursor, isRequired⟩ }
  else some s

/-- The number of octets between a place and a later one of the same line. -/
def octetsBetween (start place : Cursor) : Nat :=
  (Text.Utf8.encode (start.rest.take (place.column - start.column))).length

/-- The possible key that a colon here belongs to; a required one must not be out of reach. -/
def reachable? (s : Scan) : Option (Option PossibleKey) :=
  match s.possible with
  | none => some none
  | some k =>
    if k.cursor.line = s.cursor.line ∧ octetsBetween k.cursor s.cursor ≤ 1024 then some (some k)
    else if k.isRequired then none
    else some none

/-! ### One token -/

/-- A token that begins or ends a document. -/
def documentMark? (s : Scan) (t : Token) : Option Scan := do
  let s ← (s.close 0).forget?
  some (({ s with keyAllowed := false }.push t).skip 3)

/-- The blanks at a place, at least one. -/
def blanks? (place : Cursor) : Option Cursor :=
  let behind := place.skipWhile isBlank
  if behind.column = place.column then none else some behind

/-- The digits of a version number at a place, at most nine. -/
def versionNumber? (place : Cursor) : Option (Nat × Cursor) :=
  let digits := place.rest.takeWhile Char.isDigit
  if digits.isEmpty || 9 < digits.length then none
  else some (Digits.decimal digits, place.skip digits.length)

/-- The directive at a place behind the percent sign. -/
def directive? (place : Cursor) : Option (Token × Cursor) := do
  let name := place.rest.takeWhile isNameChar
  let place := place.skip name.length
  if !(blankAhead place.rest) then none
  else if name = "YAML".toList then
    let (major, place) ← versionNumber? (place.skipWhile isBlank)
    guard (place.rest.head? == some '.')
    let (minor, place) ← versionNumber? (place.skip 1)
    guard (major = 1 ∧ (minor = 1 ∨ minor = 2))
    some (.versionDirective, place)
  else if name = "TAG".toList then
    let place := place.skipWhile isBlank
    guard (place.rest.head? == some '!')
    let (handle, isClosed, rest) := Tag.handle place.rest.tail
    guard (isClosed || handle.isEmpty)
    let place ← blanks? (place.skip (place.rest.length - rest.length))
    let (leading, rest) ← Tag.octets true place.rest
    guard (blankAhead rest)
    some (.tagDirective (if isClosed then some handle else none) leading,
      place.skip (place.rest.length - rest.length))
  else none

/-- Reads a directive. -/
def directive (s : Scan) : Option Scan := do
  let s ← (s.close 0).forget?
  let (t, place) ← directive? (s.cursor.skip 1)
  let cursor ← place.restOfLine?
  some { s with tokens := t :: s.tokens, keyAllowed := false, cursor }

/-- Opens a flow collection. -/
def openFlow (s : Scan) (t : Token) : Option Scan := do
  let s ← s.remember?
  some ({ s with possible := none, outer := s.possible :: s.outer, keyAllowed := true }.push t
    |>.skip 1)

/-- Closes a flow collection. -/
def closeFlow (s : Scan) (t : Token) : Option Scan := do
  let s ← s.forget?
  let s :=
    match s.outer with
    | [] => s
    | possible :: outer => { s with possible, outer }
  some (({ s with keyAllowed := false }.push t).skip 1)

/-- Separates the entries of a flow collection. -/
def flowEntry (s : Scan) : Option Scan := do
  let s ← s.forget?
  some (({ s with keyAllowed := true }.push .flowEntry).skip 1)

/-- Begins an entry of a block list. -/
def blockEntry (s : Scan) : Option Scan := do
  guard (s.inFlow || s.keyAllowed)
  let column := s.cursor.column
  let s ← ({ s.enter column with
    tokens := s.opened column .blockListStart ++ s.tokens }).forget?
  some (({ s with keyAllowed := true }.push .blockEntry).skip 1)

/-- Begins a key that is marked as one. -/
def markedKey (s : Scan) : Option Scan := do
  guard (s.inFlow || s.keyAllowed)
  let column := s.cursor.column
  let s ← ({ s.enter column with
    tokens := s.opened column .blockTableStart ++ s.tokens }).forget?
  some (({ s with keyAllowed := !s.inFlow }.push .key).skip 1)

/-- Begins a value, which makes the possible key before it a key. -/
def value (s : Scan) : Option Scan := do
  let s ←
    match ← s.reachable? with
    | some k =>
      let s' := s.insert k.before (s.opened k.cursor.column .blockTableStart ++ [.key])
      some { s'.enter k.cursor.column with possible := none, keyAllowed := false }
    | none =>
      if s.inFlow then some { s with possible := none, keyAllowed := false }
      else do
        guard s.keyAllowed
        let column := s.cursor.column
        some { s.enter column with
          tokens := s.opened column .blockTableStart ++ s.tokens
          possible := none, keyAllowed := true }
  some ((s.push .value).skip 1)

/-- The name of an anchor or an alias behind its indicator. -/
def name? (place : Cursor) : Option (List Char × Cursor) := do
  let name := place.rest.takeWhile isNameChar
  let place := place.skip name.length
  guard (!name.isEmpty)
  guard (blankAhead place.rest || place.rest.head?.any ("?:,]\x7d%@".toList ++ ['\x60']).contains)
  some (name, place)

/-- Reads an anchor. -/
def anchor (s : Scan) : Option Scan := do
  let s ← s.remember?
  let (name, cursor) ← name? (s.cursor.skip 1)
  let number := s.anchors.length
  some { s with
    tokens := .anchor number :: s.tokens, keyAllowed := false, cursor
    anchors := (name, number) :: s.anchors.filter (·.1 ≠ name) }

/-- Reads an alias of an anchor before it. -/
def aliasToken (s : Scan) : Option Scan := do
  let s ← s.remember?
  let (name, cursor) ← name? (s.cursor.skip 1)
  let number ← s.anchors.lookup name
  some { s with tokens := .aliasOf number :: s.tokens, keyAllowed := false, cursor }

/-- Reads a tag. -/
def tag (s : Scan) : Option Scan := do
  let s ← s.remember?
  let place := s.cursor.skip 1
  let (written, rest) ← Tag.read place.rest
  guard (blankAhead rest || (s.inFlow && rest.head? == some ','))
  some { s with
    tokens := .tag written :: s.tokens, keyAllowed := false
    cursor := place.skip (place.rest.length - rest.length) }

/-- Reads a block scalar. -/
def blockScalar (s : Scan) (literal : Bool) : Option Scan := do
  let s ← s.forget?
  let (text, cursor) ← block literal s.margin (s.cursor.skip 1)
  some { s with tokens := .scalar false text :: s.tokens, keyAllowed := true, cursor }

/-- Reads a quoted scalar. -/
def quoted (s : Scan) (double : Bool) : Option Scan := do
  let s ← s.remember?
  let place := s.cursor.skip 1
  let (f, cursor) ←
    if double then doubleFrom .content {} place.line place.column place.rest
    else singleFrom {} place.line place.column place.rest
  some { s with tokens := .scalar false f.result :: s.tokens, keyAllowed := false, cursor }

/-- Reads a plain scalar; behind one that ended with a line a key may begin. -/
def plain (s : Scan) : Option Scan := do
  let s ← s.remember?
  let (f, cursor) ←
    plainFrom s.inFlow s.margin {} s.cursor.line s.cursor.column s.cursor.rest
  some { s with tokens := .scalar true f.result :: s.tokens, keyAllowed := f.atLineStart, cursor }

/-- The characters that have a meaning of their own at the start of a token. -/
def indicators : List Char := "-?:,[]\x7b\x7d#&*!|>'\"%@".toList ++ ['\x60']

/-- Reads the token that begins with this character. -/
def token (s : Scan) (c : Char) (rest : List Char) : Option Scan :=
  if s.cursor.column = 0 && c = '%' then s.directive
  else if s.cursor.column = 0 && threeTimes '-' (c :: rest) then s.documentMark? .documentStart
  else if s.cursor.column = 0 && threeTimes '.' (c :: rest) then s.documentMark? .documentEnd
  else if c = '[' then s.openFlow .flowListStart
  else if c = '\x7b' then s.openFlow .flowTableStart
  else if c = ']' then s.closeFlow .flowListEnd
  else if c = '\x7d' then s.closeFlow .flowTableEnd
  else if c = ',' then s.flowEntry
  else if c = '-' && blankAhead rest then s.blockEntry
  else if c = '?' && (s.inFlow || blankAhead rest) then s.markedKey
  else if c = ':' && (s.inFlow || blankAhead rest) then s.value
  else if c = '*' then s.aliasToken
  else if c = '&' then s.anchor
  else if c = '!' then s.tag
  else if c = '|' && !s.inFlow then s.blockScalar true
  else if c = '>' && !s.inFlow then s.blockScalar false
  else if c = '\'' then s.quoted false
  else if c = '"' then s.quoted true
  else if !(isBlank c || indicators.contains c) || c = '-' || c = '?' || c = ':' then s.plain
  else none

/-- Moves to the next token and reads it; at the end of the text every collection is closed, and the
tokens are complete. -/
def step (s : Scan) : Option (Scan ⊕ List Token) :=
  let s := s.skipGap
  match s.cursor.rest with
  | [] => do
    let s ← (s.close 0).forget?
    some (.inr s.tokens.reverse)
  | c :: rest => ((s.close (s.cursor.column + 1)).token c rest).map .inl

/-- Reads tokens up to the end of the text, at most this many. -/
def run : Nat → Scan → Option (List Token)
  | 0, _ => none
  | n + 1, s =>
    match s.step with
    | none => none
    | some (.inl s) => run n s
    | some (.inr tokens) => some tokens

end Scan

/-- The tokens of a text. -/
def scan? (cs : List Char) : Option (List Token) :=
  Scan.run (cs.length + 1) { cursor := ⟨cs, 0, 0⟩ }

end Token

end AccountDirectory.Yaml
