import AccountDirectory.Token.KeySet

/-!
# Signed tokens and their headers

A token is split at its last two dots into header, payload and signature. The header is an object
that names the algorithm and may name the key; its other members are texts, apart from the ones with
a shape of their own, among them a key as in a key set.
-/

namespace AccountDirectory.Token

/-! ### Segments -/

/-- The segments of a token: what is before the last two dots, between them, and after them. -/
structure Segments where
  header : List Char
  payload : List Char
  signature : List Char

/-- Splits at the last separator. -/
def splitLast? (separator : Char) (cs : List Char) : Option (List Char × List Char) :=
  match (cs.reverse.dropWhile (· ≠ separator)) with
  | [] => none
  | _ :: before => some (before.reverse, (cs.reverse.takeWhile (· ≠ separator)).reverse)

/-- The segments of a token, if it has two dots. -/
def Segments.ofChars? (cs : List Char) : Option Segments := do
  let (message, signature) ← splitLast? '.' cs
  let (header, payload) ← splitLast? '.' message
  some ⟨header, payload, signature⟩

/-- What is signed: header and payload with the dot between them. -/
def Segments.signed (s : Segments) : List Char := s.header ++ '.' :: s.payload

/-! ### Headers -/

/-- The signature algorithms. -/
inductive Algorithm
  | hs256
  | hs384
  | hs512
  | es256
  | es384
  | rs256
  | rs384
  | rs512
  | ps256
  | ps384
  | ps512
  | edDsa
  deriving DecidableEq

/-- The algorithms by name. -/
def Algorithm.names : List (String × Algorithm) :=
  [("HS256", .hs256), ("HS384", .hs384), ("HS512", .hs512), ("ES256", .es256), ("ES384", .es384),
    ("RS256", .rs256), ("RS384", .rs384), ("RS512", .rs512), ("PS256", .ps256), ("PS384", .ps384),
    ("PS512", .ps512), ("EdDSA", .edDsa)]

/-- Reads an algorithm. -/
def Algorithm.ofDocument? : Json.Reader Algorithm := fun budget d ↦
  (Json.Reader.name Json.Document.isNull budget d).bind fun name ↦ Algorithm.names.lookup name

/-- The header of a token, as far as verification needs it. -/
structure Header where
  algorithm : Algorithm
  keyId : Option String
  deriving DecidableEq

namespace Header

/-- The members that are texts or `null`. -/
def textNames : List String :=
  ["typ", "cty", "jku", "kid", "x5u", "x5t", "x5t#S256", "enc", "zip", "url", "nonce"]

/-- The members that are lists of texts or `null`. -/
def listNames : List String := ["x5c", "crit"]

/-- The member has the shape that its name asks for. -/
def memberFits (budget : Nat) (name : String) (d : Json.Document) : Bool :=
  if name = "alg" then (Algorithm.ofDocument? budget d).isSome
  else if name = "jwk" then (Json.Reader.nullable SigningKey.ofDocument? budget d).isSome
  else if textNames.contains name then (Json.Reader.text.nullable budget d).isSome
  else if listNames.contains name then ((Json.Reader.list .text).nullable budget d).isSome
  else (Json.Reader.text budget d).isSome

/-- The members that stand at most once. -/
def isKnown (name : String) : Bool :=
  name == "alg" || name == "jwk" || textNames.contains name || listNames.contains name

/-- Reads a header. -/
def ofDocument? : Json.Document → Option Header
  | .object members => do
    let members ← Json.Record.named? members
    let budget := Json.nestingLimit - 1
    if members.all (fun (name, d) ↦ memberFits budget name d) &&
        Json.Record.distinct ((members.map Prod.fst).filter isKnown) then
      let algorithm ← (members.lookup "alg").bind (Algorithm.ofDocument? budget)
      let keyId ← (members.lookup "kid").elim (some none) (Json.Reader.text.nullable budget)
      some ⟨algorithm, keyId⟩
    else none
  | _ => none

end Header

end AccountDirectory.Token
