import AccountDirectory.Number.Decimal
import AccountDirectory.Settings.Layer
import AccountDirectory.Text.Blank

/-!
# Settings of the environment

A variable is a setting when its name begins with `USER_DIRECTORY_`, in any case. The rest of the
name is the path, in small letters, with two underscores (or a dot) between the keys; a path with an
empty key is no setting. Blanks at the ends of the name and of the path do not count.

## Values

The value of a variable is read as a small notation: `true` and `false`, tables in braces, lists in
brackets, quoted texts, one character in single quotes, and else, up to the next comma, brace or
bracket, a number or a text. A value that is not this notation as a whole is the text itself.
-/

namespace AccountDirectory

namespace Setting.Variable

/-! ### Names -/

/-- What the names of settings begin with. -/
def leading : List Char := "user_directory_".toList

/-- Makes dots of pairs of underscores, from the left. -/
def dotted : List Char → List Char
  | '_' :: '_' :: rest => '.' :: dotted rest
  | c :: rest => c :: dotted rest
  | [] => []

/-- The path that the name of a variable leads to. -/
def path? (name : String) : Option (List String) :=
  let name := Text.asciiLower (Text.trimBoth name.toList)
  if leading.isPrefixOf name then
    let keys := Text.pieces '.' (Text.trimBoth (dotted (name.drop leading.length)))
    if keys.any (·.isEmpty) then none else some (keys.map String.ofList)
  else none

/-! ### Values -/

/-- The blanks between the parts of a value. -/
def isSpace (c : Char) : Bool := c == ' ' || c == '\t' || c == '\n' || c == '\x0c' || c == '\r'

/-- The text without spaces at its start. -/
def skipSpace (cs : List Char) : List Char := cs.dropWhile isSpace

/-- The characters that end a bare word. -/
def isSeparator (c : Char) : Bool :=
  c == ',' || c == '\x7b' || c == '\x7d' || c == '[' || c == ']'

/-- The characters of a bare key. -/
def isKeyChar (c : Char) : Bool := c.isAlphanum || c == '_' || c == '-'

/-- The natural that a text spells, with a plus before it or not. -/
def natural? (cs : List Char) : Option Nat :=
  let digits :=
    match cs with
    | '+' :: rest => rest
    | rest => rest
  if digits.isEmpty || !(digits.all Char.isDigit) then none else some (Digits.decimal digits)

/-- The integer of 64 bits, unsigned or signed, that a text spells. -/
def integer? (cs : List Char) : Option Int :=
  match cs with
  | '-' :: digits =>
    if digits.head? == some '+' then none
    else (natural? digits).bind fun n ↦ if n ≤ 0x8000000000000000 then some (-(n : Int)) else none
  | cs => (natural? cs).bind fun n ↦ if n < 0x10000000000000000 then some (n : Int) else none

/-- What a bare word stands for. -/
def ofWord (word : List Char) : Setting :=
  let word := Text.trimBoth word
  if word.contains '.' && (Decimal.ofChars? word).isSome then .fractional
  else
    match integer? word with
    | some n => .integer n
    | none => .text (String.ofList word)

/-- The characters that one-letter escapes stand for. -/
def escapes : List (Char × Char) :=
  [('"', '"'), ('\\', '\\'), ('b', '\x08'), ('f', '\x0c'), ('n', '\n'), ('r', '\r'), ('t', '\t')]

/-- Where a reader stands inside quotes. -/
inductive QuoteMode
  | content
  /-- Behind a backslash. -/
  | escape
  /-- Inside an escape by number, `left + 1` digits before its end. -/
  | digits (left value : Nat)

/-- The characters that may stand inside quotes. -/
def isQuotable (c : Char) : Bool := c == '\t' || (' ' ≤ c && c ≠ '\x7f')

/-- Reads a quoted text on, with its escapes: the text and what follows the closing quote. -/
def quotedFrom (mode : QuoteMode) : List Char → Option (List Char × List Char)
  | [] => none
  | c :: rest =>
    match mode with
    | .content =>
      if c = '"' then some ([], rest)
      else if c = '\\' then quotedFrom .escape rest
      else if isQuotable c then
        (quotedFrom .content rest).map fun (chars, rest) ↦ (c :: chars, rest)
      else none
    | .escape =>
      if c = 'u' then quotedFrom (.digits 3 0) rest
      else if c = 'U' then quotedFrom (.digits 7 0) rest
      else
        match escapes.lookup c with
        | some meant => (quotedFrom .content rest).map fun (chars, rest) ↦ (meant :: chars, rest)
        | none => none
    | .digits left value =>
      match Digits.hexValue? c, left with
      | none, _ => none
      | some digit, left + 1 => quotedFrom (.digits left (value * 16 + digit)) rest
      | some digit, 0 =>
        let n := value * 16 + digit
        if n.isValidChar then
          (quotedFrom .content rest).map fun (chars, rest) ↦ (Char.ofNat n :: chars, rest)
        else none

/-- The longest beginning of a text that has at most this many octets. -/
def octetsOf : Nat → List Char → List Char
  | n, c :: rest => if c.utf8Size ≤ n then c :: octetsOf (n - c.utf8Size) rest else []
  | _, [] => []

/-- Reads a quoted text behind its opening quote. What stands before the first escape counts only as
far as it has no more octets than characters. -/
def quoted (cs : List Char) : Option (List Char × List Char) :=
  let plain := cs.takeWhile fun c ↦ isQuotable c && c ≠ '"' && c ≠ '\\'
  match cs.drop plain.length with
  | '"' :: rest => some (plain, rest)
  | rest =>
    (quotedFrom .content rest).map fun (chars, rest) ↦ (octetsOf plain.length plain ++ chars, rest)

/-- Reads a key and the equals sign behind it. -/
def key (cs : List Char) : Option (String × List Char) := do
  let (name, rest) ←
    match skipSpace cs with
    | '"' :: rest => quoted rest
    | cs =>
      let name := cs.takeWhile isKeyChar
      if name.isEmpty then none else some (name, cs.drop name.length)
  match skipSpace rest with
  | '=' :: rest => some (String.ofList name, rest)
  | _ => none

/-- The text behind a word that it begins with. -/
def after? (word : String) (cs : List Char) : Option (List Char) :=
  if word.toList.isPrefixOf cs then some (cs.drop word.length) else none

mutual

/-- Reads a value and the spaces around it. The readers of values recurse at most `fuel` deep. -/
def value (fuel : Nat) (cs : List Char) : Option (Setting × List Char) :=
  match fuel with
  | 0 => none
  | fuel + 1 => do
    let cs := skipSpace cs
    let (s, rest) ←
      match after? "true" cs, after? "false" cs, cs with
      | some rest, _, _ => some (.bool true, rest)
      | none, some rest, _ => some (.bool false, rest)
      | _, _, '\x7b' :: rest => (entries fuel rest).map fun (es, rest) ↦ (.table (tableOf es), rest)
      | _, _, '[' :: rest => (items fuel rest).map fun (ss, rest) ↦ (.list ss, rest)
      | _, _, '"' :: rest =>
        (quoted rest).map fun (chars, rest) ↦ (.text (String.ofList chars), rest)
      | _, _, '\'' :: c :: '\'' :: rest => some (.text (String.singleton c), rest)
      | _, _, '\'' :: _ => none
      | _, _, cs =>
        let word := cs.takeWhile (!isSeparator ·)
        some (ofWord word, cs.drop word.length)
    some (s, skipSpace rest)

/-- Reads the items of a list behind its bracket, and its end; a comma may stand before the end. -/
def items (fuel : Nat) (cs : List Char) : Option (List Setting × List Char) :=
  match fuel, cs with
  | 0, _ => none
  | _ + 1, ']' :: rest => some ([], rest)
  | fuel + 1, cs => do
    let (s, rest) ← value fuel cs
    match rest with
    | ',' :: rest => (items fuel rest).map fun (ss, rest) ↦ (s :: ss, rest)
    | ']' :: rest => some ([s], rest)
    | _ => none

/-- Reads the entries of a table behind its brace, and its end; a comma may stand before the end. -/
def entries (fuel : Nat) (cs : List Char) : Option (List (String × Setting) × List Char) :=
  match fuel, cs with
  | 0, _ => none
  | _ + 1, '\x7d' :: rest => some ([], rest)
  | fuel + 1, cs => do
    let (name, rest) ← key cs
    let (s, rest) ← value fuel rest
    match rest with
    | ',' :: rest => (entries fuel rest).map fun (es, rest) ↦ ((name, s) :: es, rest)
    | '\x7d' :: rest => some ([(name, s)], rest)
    | _ => none

end

/-- The setting that the value of a variable stands for. -/
def ofText (s : String) : Setting :=
  match value (2 * s.length + 4) s.toList with
  | some (setting, []) => setting
  | _ => .text s

end Setting.Variable

/-- The layer of the variables of the environment, where later ones go over earlier ones. -/
def Setting.ofEnvironment (environment : List (String × String)) : Setting :=
  environment.foldl (fun lower (name, value) ↦
    match Setting.Variable.path? name with
    | some path => (Setting.nested path (Setting.Variable.ofText value)).layeredOver lower
    | none => lower) (.table [])

end AccountDirectory
