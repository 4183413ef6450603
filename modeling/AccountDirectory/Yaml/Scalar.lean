import AccountDirectory.Yaml.Text
import AccountDirectory.Number.Digits

/-!
# Scalars of YAML text

A scalar is written plain, in single or double quotes, or as a block. Plain and quoted ones may run
over lines, and their line breaks are folded (`Folding`):

* blanks around a line break are dropped,
* a single line feed becomes a space,
* of several line breaks the first one, when it is a line feed, is dropped and the others are kept.

Each reader starts behind the character that shows the style and returns what the scalar spells and
the place behind it.
-/

namespace AccountDirectory.Yaml

/-! ### Folding -/

/-- Blanks or breaks that have been read but not yet written: what follows decides on them. -/
inductive Pending
  /-- Blanks inside a line, last first. -/
  | blanks (chars : List Char)
  /-- Line breaks, the first one (none when it was escaped) and the later ones, last first. -/
  | breaks (first : Option Char) (later : List Char)

/-- A text on the way to its folded form. -/
structure Folding where
  /-- The characters so far, last first. -/
  text : List Char := []
  pending : Pending := .blanks []

namespace Folding

/-- Something is pending. -/
def isPending (f : Folding) : Bool :=
  match f.pending with
  | .blanks [] => false
  | _ => true

/-- The latest line has had blanks only. -/
def atLineStart (f : Folding) : Bool :=
  match f.pending with
  | .blanks _ => false
  | .breaks .. => true

/-- Takes a blank. -/
def blank (f : Folding) (c : Char) : Folding :=
  match f.pending with
  | .blanks chars => { f with pending := .blanks (c :: chars) }
  | .breaks .. => f

/-- Takes a line break. -/
def lineBreak (f : Folding) (c : Char) : Folding :=
  match f.pending with
  | .blanks _ => { f with pending := .breaks (some c) [] }
  | .breaks first later => { f with pending := .breaks first (c :: later) }

/-- Writes what is pending. -/
def settle (f : Folding) : Folding :=
  match f.pending with
  | .blanks chars => ⟨chars ++ f.text, .blanks []⟩
  | .breaks (some '\n') [] => ⟨' ' :: f.text, .blanks []⟩
  | .breaks (some '\n') later => ⟨later ++ f.text, .blanks []⟩
  | .breaks first later => ⟨later ++ first.toList ++ f.text, .blanks []⟩

/-- Takes a character that is neither blank nor break. -/
def put (f : Folding) (c : Char) : Folding :=
  let f := f.settle
  { f with text := c :: f.text }

/-- Takes an escaped line break: the text goes on as if there were none. -/
def splice (f : Folding) : Folding := { f.settle with pending := .breaks none [] }

/-- The text, without what is pending. -/
def result (f : Folding) : List Char := f.text.reverse

end Folding

/-! ### Plain scalars -/

/-- The characters that flow collections are marked with. -/
def isFlowMark (c : Char) : Bool :=
  c == ',' || c == '[' || c == ']' || c == '\x7b' || c == '\x7d'

/-- A plain scalar ends before this text: behind blanks or breaks, with a line that is indented too
little, a document mark or a comment, and anywhere with a colon before a blank or, in a flow
collection, with one of its marks. -/
def endsPlain (flow : Bool) (margin : Nat) (f : Folding) (column : Nat) (c : Char)
    (rest : List Char) : Bool :=
  (f.isPending &&
      ((!flow && column < margin) || documentMarkAhead column (c :: rest) || c == '#')) ||
    (c == ':' && blankAhead rest) || (flow && isFlowMark c)

/-- In a flow collection, a colon right before one of its marks is a mistake. -/
def isMisplacedColon (flow : Bool) (c : Char) (rest : List Char) : Bool :=
  flow && c == ':' && rest.head?.any fun d ↦ isFlowMark d || d == '?'

/-- Reads a plain scalar on, inside or outside of flow collections, where `margin` is the least
indentation of its lines. -/
def plainFrom (flow : Bool) (margin : Nat) (f : Folding) (line column : Nat) :
    List Char → Option (Folding × Cursor)
  | [] => some (f, ⟨[], line, column⟩)
  | c :: rest =>
    if isBlank c then
      if f.atLineStart && column < margin && c == '\t' then none
      else plainFrom flow margin (f.blank c) line (column + 1) rest
    else if isBreak c then plainFrom flow margin (f.lineBreak c) (line + 1) 0 rest
    else if isMisplacedColon flow c rest then none
    else if endsPlain flow margin f column c rest then some (f, ⟨c :: rest, line, column⟩)
    else plainFrom flow margin (f.put c) line (column + 1) rest

/-! ### Quoted scalars -/

/-- Reads a scalar in single quotes on; a doubled quote stands for one. -/
def singleFrom (f : Folding) (line column : Nat) : List Char → Option (Folding × Cursor)
  | [] => none
  | '\'' :: '\'' :: rest => singleFrom (f.put '\'') line (column + 2) rest
  | c :: rest =>
    if documentMarkAhead column (c :: rest) then none
    else if c = '\'' then some (f.settle, ⟨rest, line, column + 1⟩)
    else if isBlank c then singleFrom (f.blank c) line (column + 1) rest
    else if isBreak c then singleFrom (f.lineBreak c) (line + 1) 0 rest
    else singleFrom (f.put c) line (column + 1) rest

/-- Where a reader stands inside double quotes. -/
inductive QuoteMode
  | content
  /-- Behind a backslash. -/
  | escape
  /-- Inside an escape by number, `left + 1` digits before its end. -/
  | digits (left value : Nat)

/-- The characters that one-letter escapes stand for. -/
def escapes : List (Char × Char) :=
  [('0', '\x00'), ('a', '\x07'), ('b', '\x08'), ('t', '\t'), ('\t', '\t'), ('n', '\n'),
    ('v', '\x0b'), ('f', '\x0c'), ('r', '\r'), ('e', '\x1b'), (' ', ' '), ('"', '"'), ('/', '/'),
    ('\\', '\\'), ('N', '\u0085'), ('_', '\u00a0'), ('L', '\u2028'), ('P', '\u2029')]

/-- How many digits follow the letter of an escape by number. -/
def escapeWidths : List (Char × Nat) := [('x', 2), ('u', 4), ('U', 8)]

/-- The character with this number; surrogates have none. -/
def charOfNumber? (n : Nat) : Option Char :=
  if n < 0xD800 ∨ (0xE000 ≤ n ∧ n < 0x110000) then some (Char.ofNat n) else none

/-- Reads a scalar in double quotes on. -/
def doubleFrom (mode : QuoteMode) (f : Folding) (line column : Nat) :
    List Char → Option (Folding × Cursor)
  | [] => none
  | c :: rest =>
    match mode with
    | .content =>
      if documentMarkAhead column (c :: rest) then none
      else if c = '"' then some (f.settle, ⟨rest, line, column + 1⟩)
      else if c = '\\' then doubleFrom .escape f line (column + 1) rest
      else if isBlank c then doubleFrom .content (f.blank c) line (column + 1) rest
      else if isBreak c then doubleFrom .content (f.lineBreak c) (line + 1) 0 rest
      else doubleFrom .content (f.put c) line (column + 1) rest
    | .escape =>
      if isBreak c then doubleFrom .content f.splice (line + 1) 0 rest
      else
        match escapes.lookup c, escapeWidths.lookup c with
        | some meant, _ => doubleFrom .content (f.put meant) line (column + 1) rest
        | none, some width => doubleFrom (.digits (width - 1) 0) f line (column + 1) rest
        | none, none => none
    | .digits left value =>
      match Digits.hexValue? c, left with
      | none, _ => none
      | some digit, left + 1 =>
        doubleFrom (.digits left (value * 16 + digit)) f line (column + 1) rest
      | some digit, 0 =>
        match charOfNumber? (value * 16 + digit) with
        | none => none
        | some meant => doubleFrom .content (f.put meant) line (column + 1) rest

/-! ### Block scalars -/

/-- What becomes of the line breaks at the end of a block. -/
inductive Chomping
  /-- All are dropped. -/
  | strip
  /-- The first one is kept. -/
  | clip
  /-- All are kept. -/
  | keep

/-- The style of a block scalar. -/
structure BlockStyle where
  /-- Line breaks are kept and not folded. -/
  literal : Bool
  chomping : Chomping
  /-- The least indentation that the lines must have. -/
  margin : Nat

/-- A block scalar on the way. -/
structure Block where
  /-- The characters so far, last first. -/
  text : List Char := []
  /-- The indentation of the lines, when it is known. -/
  indent : Option Nat
  /-- The greatest indentation of the lines so far, which are all empty, while it is not known. -/
  deepest : Nat := 0
  /-- The break of the latest line that was not empty. -/
  lineBreak : Option Char := none
  /-- The breaks since, last first. -/
  emptyBreaks : List Char := []
  /-- The latest line that was not empty began with a blank. -/
  indentedMore : Bool := false

namespace Block

/-- Begins a line: writes the breaks before it, where a fold of two lines that do not begin with
blanks makes one space of a line feed. -/
def beginLine (b : Block) (style : BlockStyle) (c : Char) : Block :=
  let folds :=
    !style.literal && b.lineBreak == some '\n' && !b.indentedMore && !(isBlank c)
  let breaks :=
    if folds then if b.emptyBreaks.isEmpty then [' '] else b.emptyBreaks
    else b.emptyBreaks ++ b.lineBreak.toList
  { b with
    text := breaks ++ b.text, lineBreak := none, emptyBreaks := [], indentedMore := isBlank c }

/-- The block with its indentation fixed, by its deepest empty line if need be. -/
def fixIndent (b : Block) (style : BlockStyle) : Block × Nat :=
  match b.indent with
  | some n => (b, n)
  | none =>
    let n := max b.deepest (max style.margin 1)
    ({ b with indent := some n }, n)

/-- Spaces at this column belong to the indentation. -/
def inIndent (b : Block) (column : Nat) : Bool := b.indent.all (column < ·)

/-- The text of a block that has ended. -/
def result (b : Block) (style : BlockStyle) : List Char :=
  let tail :=
    match style.chomping with
    | .strip => []
    | .clip => b.lineBreak.toList
    | .keep => b.emptyBreaks ++ b.lineBreak.toList
  (tail ++ b.text).reverse

end Block

/-- Reads a block scalar on; `inLine` holds inside a line that is not empty. -/
def blockFrom (style : BlockStyle) (inLine : Bool) (b : Block) (line column : Nat) :
    List Char → Option (List Char × Cursor)
  | [] => some (b.result style, ⟨[], line, column⟩)
  | c :: rest =>
    if inLine then
      if isBreak c then blockFrom style false { b with lineBreak := some c } (line + 1) 0 rest
      else blockFrom style true { b with text := c :: b.text } line (column + 1) rest
    else if b.inIndent column && c == ' ' then blockFrom style false b line (column + 1) rest
    else if b.inIndent column && c == '\t' then none
    else
      let b := { b with deepest := max b.deepest column }
      if isBreak c then
        blockFrom style false { b with emptyBreaks := c :: b.emptyBreaks } (line + 1) 0 rest
      else
        let (b, indent) := b.fixIndent style
        if column = indent then
          let b := b.beginLine style c
          blockFrom style true { b with text := c :: b.text } line (column + 1) rest
        else some (b.result style, ⟨c :: rest, line, column⟩)

/-- The chomping that a character asks for. -/
def chompingOf? (c : Char) : Option Chomping :=
  if c = '-' then some .strip else if c = '+' then some .keep else none

/-- The header of a block scalar: its chomping and its indentation, in either order. -/
def blockHeader (cs : List Char) : Option (Chomping × Option Nat × Nat) :=
  let chomping := fun (c : Option Char) ↦ c.bind chompingOf?
  let indent := fun (c : Option Char) ↦ (c.filter Char.isDigit).map fun d ↦ Digits.digitValue d
  let first := cs.head?
  let second := cs.tail.head?
  let found :=
    match chomping first, indent first with
    | some k, _ =>
      match indent second with
      | some n => (k, some n, 2)
      | none => (k, none, 1)
    | none, some n =>
      match chomping second with
      | some k => (k, some n, 2)
      | none => (.clip, some n, 1)
    | none, none => (.clip, none, 0)
  if found.2.1 == some 0 then none else some found

/-- Reads a block scalar behind its indicator, where `margin` is one more than the indentation of
the collection around it. -/
def block (literal : Bool) (margin : Nat) (place : Cursor) : Option (List Char × Cursor) := do
  let (chomping, increment, width) ← blockHeader place.rest
  let start ← (place.skip width).restOfLine?
  let indent := increment.map fun n ↦ margin - 1 + n
  blockFrom ⟨literal, chomping, margin⟩ false { indent } start.line start.column start.rest

end AccountDirectory.Yaml
