import AccountDirectory.Json.Value
import AccountDirectory.Text.Base64Url
import AccountDirectory.Text.Blank

/-!
# Classifying an identifier

A caller may name a user by a bearer token, by a subject such as `auth0|65a1`, or by a username.
`classify` decides by the shape of the text alone: token shape first, then a `|`, then the rest.

The shape of a token is three segments between dots, all of them in the alphabet of base-64, of
which the first is the written form of a JSON object. Nothing is verified here.
-/

namespace AccountDirectory.Lookup

/-- How an identifier is resolved. -/
inductive Strategy
  /-- A bearer token, without the word `Bearer` before it. -/
  | token (value : String)
  /-- A subject as the directory writes it. -/
  | subject (value : String)
  | username (value : String)
  deriving DecidableEq

/-- The octets are the UTF-8 text of a JSON object. -/
def isJsonObject (octets : List UInt8) : Bool :=
  match (Json.Document.ofOctets? octets).bind (Json.Value.ofDocument? Json.nestingLimit) with
  | some v => v.isObject
  | none => false

/-- A segment of a token: letters of the base-64 alphabet, at least one. -/
def isSegment (cs : List Char) : Bool := !cs.isEmpty && cs.all Text.Base64Url.isLetter

/-- The text has the shape of a compact signed token. -/
def looksLikeToken (cs : List Char) : Bool :=
  match Text.pieces '.' cs with
  | [header, payload, signature] =>
    isSegment header && isSegment payload && isSegment signature &&
      (match Text.Base64Url.decode? header with
        | some octets => isJsonObject octets
        | none => false)
  | _ => false

/-- The word before a token, with the blank that ends it. -/
def bearerWord : List Char := "bearer ".toList

/-- The text without the word `Bearer` (in any case) and the blanks after it. -/
def stripBearer (cs : List Char) : List Char :=
  if Text.asciiLower (cs.take bearerWord.length) = bearerWord then
    Text.trimStart (cs.drop bearerWord.length)
  else cs

/-- How to resolve an identifier; a blank one is resolved in no way. -/
def classify (input : String) : Option Strategy :=
  let cs := Text.trimBoth input.toList
  if cs.isEmpty then none
  else
    let candidate := stripBearer cs
    if looksLikeToken candidate then some (.token (String.ofList candidate))
    else if cs.contains '|' then some (.subject (String.ofList cs))
    else some (.username (String.ofList cs))

end AccountDirectory.Lookup
