import AccountDirectory.Json.Token
import AccountDirectory.Text.Utf8

/-!
# Documents of JSON

A `Document` is JSON as it is written: members stand in their order with every repetition, numbers
are literals, and a string may lack a text. What a reader of a document makes of repeated members,
of numbers beyond the doubles or of deep nesting is that reader's decision (`Json.Value`,
`Json.Record`).

`ofTokens?` reads tokens with a stack of the open containers, one token at a time.
-/

namespace AccountDirectory.Json

/-- JSON as it is written. -/
inductive Document
  | null
  | bool (b : Bool)
  | number (lit : Literal)
  | text (content : Option String)
  | list (items : List Document)
  | object (members : List (Option String × Document))

namespace Document

/-- The document is `null`. -/
def isNull : Document → Bool
  | .null => true
  | _ => false

/-- The document is `null` or an object without members. -/
def isNullOrEmpty : Document → Bool
  | .null | .object [] => true
  | _ => false

/-- An open container: what it holds so far, last first, and for an object the key whose value is
being read. -/
inductive Frame
  | list (items : List Document)
  | object (members : List (Option String × Document)) (key : Option String)

/-- What may come next. -/
inductive Expected
  /-- A value. -/
  | value
  /-- A value or the end of the list just opened. -/
  | firstItem
  /-- A key or the end of the object just opened. -/
  | firstKey
  /-- A key after a comma; the members so far stand last first. -/
  | key (members : List (Option String × Document))
  /-- The colon after a key. -/
  | colon
  /-- A comma or the end of the innermost container, after this value of it. -/
  | more (last : Document)

/-- A reader in the middle of a document. -/
structure Reading where
  expected : Expected
  /-- The open containers, innermost first. -/
  stack : List Frame

/-- The value that a token is by itself. -/
def ofToken? : Token → Option Document
  | .null => some .null
  | .bool b => some (.bool b)
  | .number lit => some (.number lit)
  | .text content => some (.text content)
  | _ => none

/-- Reads a token where a value must begin. -/
def begin? (stack : List Frame) : Token → Option Reading
  | .openList => some ⟨.firstItem, .list [] :: stack⟩
  | .openObject => some ⟨.firstKey, stack⟩
  | t => (ofToken? t).map fun d ↦ ⟨.more d, stack⟩

/-- Reads one token. -/
def step? (r : Reading) (t : Token) : Option Reading :=
  match r.expected, r.stack, t with
  | .value, stack, t => begin? stack t
  | .firstItem, .list _ :: stack, .closeList => some ⟨.more (.list []), stack⟩
  | .firstItem, stack, t => begin? stack t
  | .firstKey, stack, .closeObject => some ⟨.more (.object []), stack⟩
  | .firstKey, stack, .text key => some ⟨.colon, .object [] key :: stack⟩
  | .key members, stack, .text key => some ⟨.colon, .object members key :: stack⟩
  | .colon, stack, .colon => some ⟨.value, stack⟩
  | .more d, .list items :: stack, .comma => some ⟨.value, .list (d :: items) :: stack⟩
  | .more d, .list items :: stack, .closeList => some ⟨.more (.list (d :: items).reverse), stack⟩
  | .more d, .object members key :: stack, .comma => some ⟨.key ((key, d) :: members), stack⟩
  | .more d, .object members key :: stack, .closeObject =>
    some ⟨.more (.object ((key, d) :: members).reverse), stack⟩
  | _, _, _ => none

/-- The document that is complete at this point, if one is. -/
def complete? (r : Reading) : Option Document :=
  match r.expected, r.stack with
  | .more d, [] => some d
  | _, _ => none

/-- The document that these tokens spell. -/
def ofTokens? (tokens : List Token) : Option Document :=
  (tokens.foldlM step? ⟨.value, []⟩).bind complete?

/-- The document that a text spells. -/
def ofChars? (cs : List Char) : Option Document := (Token.scan cs).bind ofTokens?

/-- The document that a text spells. -/
def ofText? (s : String) : Option Document := ofChars? s.toList

/-- The document that an octet string in UTF-8 spells. -/
def ofOctets? (bs : List UInt8) : Option Document := (Text.Utf8.decode? bs).bind ofChars?

end Document

end AccountDirectory.Json
