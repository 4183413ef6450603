import AccountDirectory.Http.Host
import AccountDirectory.Http.Url

/-!
# Reading addresses

`Url.parse?` reads a text as an absolute address and brings it into its normal form: blanks and
controls around it and tabs and line breaks inside it are dropped, the scheme and the name of the
host are in small letters, a port number that goes without saying is left out, the dot segments of
the path are resolved, and characters that a part may not hold are escaped. Escapes that are already
there are kept.

A drive, which is a letter with a colon or a vertical bar behind it, is a segment that dots never
lead out of.
-/

namespace AccountDirectory.Http

/-! ### Escapes -/

/-- The characters that a path segment may not hold. -/
def pathEscapes : List Char := " \"#<>?`\x7b\x7d".toList

/-- The characters that a query may not hold under this scheme. -/
def queryEscapes (scheme : Scheme) : List Char :=
  if scheme.isOther then " \"#<>".toList else " \"#<>'".toList

/-- The characters that a fragment may not hold. -/
def fragmentEscapes : List Char := " \"<>`".toList

/-- The characters that the name and the password of a user may not hold. -/
def userEscapes : List Char := pathEscapes ++ "/:;=@[\\]^|".toList

/-! ### Paths -/

/-- The character separates segments under this scheme. -/
def isSlash (scheme : Scheme) (c : Char) : Bool := c == '/' || (c == '\\' && !scheme.isOther)

/-- The segment means the same place. -/
def isSingleDot (segment : List Char) : Bool :=
  [".".toList, "%2e".toList].contains (Text.asciiLower segment)

/-- The segment means one place up. -/
def isDoubleDot (segment : List Char) : Bool :=
  ["..".toList, ".%2e".toList, "%2e.".toList, "%2e%2e".toList].contains (Text.asciiLower segment)

/-- The segment names a drive. -/
def isDrive : List Char → Bool
  | [letter, c] => letter.isAlpha && (c == ':' || c == '|')
  | _ => false

/-- The place above a place, both with the last segment first. -/
def above : List (List Char) → List (List Char)
  | [] => []
  | segment :: place => if isDrive segment then segment :: place else place

/-- Follows segments from a place (last segment first); dots at the end leave an empty segment. -/
def resolve : List (List Char) → List (List Char) → List (List Char)
  | place, [] => place.reverse
  | place, [segment] =>
    (if isDoubleDot segment then [] :: above place
      else if isSingleDot segment then [] :: place
      else segment :: place).reverse
  | place, segment :: rest =>
    resolve
      (if isDoubleDot segment then above place
        else if isSingleDot segment then place
        else segment :: place)
      rest

/-- The segments of a path, resolved but not yet escaped; a slash may stand before the first one. -/
def resolved (scheme : Scheme) (path : List Char) : List (List Char) :=
  let cs := path.map fun c ↦ if isSlash scheme c then '/' else c
  resolve [] (Text.pieces '/' (if cs.head? == some '/' then cs.tail else cs))

/-- The path of these segments. -/
def pathOf (segments : List (List Char)) : Path :=
  .segments (segments.map fun s ↦ String.ofList (Text.Percent.escape pathEscapes s))

/-- A text cut before the first character of a kind. -/
def cutBefore (p : Char → Bool) (cs : List Char) : List Char × List Char :=
  (cs.takeWhile (!p ·), cs.dropWhile (!p ·))

/-! ### Authorities -/

/-- The user that is written before the host. The first colon ends the name. -/
def user? (cs : List Char) : Option UserInfo :=
  let (name, rest) := cutBefore (· == ':') cs
  let escaped := fun part ↦ String.ofList (Text.Percent.escape userEscapes part)
  let password := rest.tail
  if name.isEmpty && password.isEmpty then none
  else some ⟨escaped name, if password.isEmpty then none else some (escaped password)⟩

/-- The text of a user before the last `@`, if there is one, and what is behind it. -/
def splitUser (authority : List Char) : Option (List Char) × List Char :=
  let rest := (authority.reverse.takeWhile (· ≠ '@')).reverse
  if rest.length = authority.length then (none, authority)
  else (some (authority.take (authority.length - rest.length - 1)), rest)

/-- The host and the text of the port number, which is after the first colon outside brackets. -/
def splitPort : Bool → List Char → List Char × Option (List Char)
  | _, [] => ([], none)
  | bracket, c :: rest =>
    if c = ':' && !bracket then ([], some rest)
    else
      let (host, digits) :=
        splitPort (if c = '[' then true else if c = ']' then false else bracket) rest
      (c :: host, digits)

/-- Reads the text of a port number, none for an empty one and for the default one, and what is
behind it: a backslash ends the number. -/
def portNumber? (scheme : Scheme) (cs : List Char) : Option (Option Nat × List Char) :=
  let (digits, rest) := cutBefore (!·.isDigit) cs
  let n := Digits.decimal digits
  if 65535 < n || rest.head?.any (· ≠ '\\') then none
  else some (if digits.isEmpty || scheme.defaultPort? == some n then none else some n, rest)

/-- Reads an authority: it, and what of its text belongs to the path. Only under a scheme without
rules of its own may the host be empty, and then neither a user nor a port number stands beside it.
-/
def authority? (scheme : Scheme) (cs : List Char) : Option (Authority × List Char) := do
  let (userText, rest) := splitUser cs
  let (host, digits) := splitPort false rest
  let user := userText.bind user?
  if host.isEmpty then
    guard (scheme.isOther && userText != some [] && user.isNone && digits.isNone)
    some (⟨none, "", none⟩, [])
  else
    let host ← if scheme.isOther then Host.written? host else Host.normal? host
    let (portNumber, rest) ← digits.elim (some (none, [])) (portNumber? scheme)
    some (⟨user, String.ofList host, portNumber⟩, rest)

/-! ### Addresses -/

namespace Url

/-- The text without what is dropped from every address. -/
def cleaned (s : String) : List Char :=
  let isEdge := fun c : Char ↦ c.toNat ≤ 0x20
  let inner := ((s.toList.dropWhile isEdge).reverse.dropWhile isEdge).reverse
  inner.filter fun c ↦ !(c == '\t' || c == '\n' || c == '\r')

/-- The scheme of an address, in small letters, and what follows its colon. -/
def splitScheme : List Char → Option (Scheme × List Char)
  | [] => none
  | first :: rest =>
    if first.isAlpha then
      let isNameChar := fun c : Char ↦ c.isAlphanum || c == '+' || c == '-' || c == '.'
      match rest.dropWhile isNameChar with
      | ':' :: after =>
        let name := Text.asciiLower (first :: rest.takeWhile isNameChar)
        some (Scheme.ofName (String.ofList name), after)
      | _ => none
    else none

/-- The authority and the path of an address behind the slashes that open its authority. -/
def hierarchy? (scheme : Scheme) (cs : List Char) : Option (Authority × Path) := do
  let (text, rest) := cutBefore (isSlash scheme) cs
  let (authority, leftover) ← authority? scheme text
  let path := leftover ++ rest
  some (authority, if scheme.isOther && path.isEmpty then .segments []
    else pathOf (resolved scheme path))

/-- The host of a file and its path. Leading empty segments do not count, and a path that begins with
a drive is on no host. -/
def filePlace (host : List Char) (path : List Char) : Authority × Path :=
  match (resolved .file path).dropWhile (·.isEmpty) with
  | [] => (⟨none, String.ofList host, none⟩, pathOf [[]])
  | segment :: rest =>
    if isDrive segment then (⟨none, "", none⟩, pathOf ((segment.take 1 ++ [':']) :: rest))
    else (⟨none, String.ofList host, none⟩, pathOf (segment :: rest))

/-- The authority and the path of a file. -/
def file? (cs : List Char) : Option (Authority × Path) :=
  match cs with
  | a :: b :: rest =>
    if isSlash .file a && isSlash .file b then
      let (host, path) := cutBefore (isSlash .file) rest
      if host.isEmpty || isDrive host then some (filePlace [] rest)
      else (Host.normal? host).map fun host ↦
        filePlace (if host = "localhost".toList then [] else host) path
    else some (filePlace [] cs)
  | cs => some (filePlace [] cs)

/-- The authority and the path of an address behind the colon of its scheme. -/
def place? (scheme : Scheme) (cs : List Char) : Option (Option Authority × Path) :=
  match scheme, cs with
  | .file, cs => (file? cs).map fun (a, path) ↦ (some a, path)
  | .other _, '/' :: '/' :: rest => (hierarchy? scheme rest).map fun (a, path) ↦ (some a, path)
  | .other _, '/' :: rest => some (none, pathOf (resolved scheme ('/' :: rest)))
  | .other _, cs => some (none, .written (String.ofList (Text.Percent.escape [] cs)))
  | scheme, cs =>
    (hierarchy? scheme (cs.dropWhile (isSlash scheme))).map fun (a, path) ↦ (some a, path)

/-- Reads an absolute address. -/
def parse? (s : String) : Option Url := do
  let (scheme, rest) ← splitScheme (cleaned s)
  let (rest, fragment) := cutBefore (· == '#') rest
  let (rest, query) := cutBefore (· == '?') rest
  let (authority, path) ← place? scheme rest
  let part := fun set text ↦
    match text with
    | [] => none
    | _ :: cs => some (String.ofList (Text.Percent.escape set cs))
  some ⟨scheme, authority, path, part (queryEscapes scheme) query, part fragmentEscapes fragment⟩

end Url

end AccountDirectory.Http
