import AccountDirectory.Json.Record

/-!
# Payloads of tokens

A payload is read twice: for the claims about its owner (`OwnerClaims`), which have prescribed
types, and for the claims that decide whether it is valid (`ValidityClaims`), where a claim of an
unexpected type counts as not there.
-/

namespace AccountDirectory.Token

/-! ### Claims about the owner -/

/-- The scopes of a token: a text of words, or a list. -/
inductive ScopeClaim
  | words (text : String)
  | list (scopes : List String)
  deriving DecidableEq

/-- Reads scopes of either form. -/
def ScopeClaim.ofDocument? : Json.Reader ScopeClaim
  | budget, .list items => (Json.Reader.list .text budget (.list items)).map .list
  | budget, d => (Json.Reader.text budget d).map .words

/-- The claims about the owner of a token. -/
structure OwnerClaims where
  subject : String
  scope : Option ScopeClaim
  permissions : List String
  deriving DecidableEq

/-- Reads the claims about the owner. -/
def OwnerClaims.ofDocument? : Json.Reader OwnerClaims := fun budget d ↦ do
  let r ← Json.Record.ofDocument? ["sub", "scope", "permissions"] budget d
  let subject ← r.defaulted "sub" "" .text
  let scope ← r.optional "scope" ScopeClaim.ofDocument?
  let permissions ← r.defaulted "permissions" [] (.list .text)
  some { subject, scope, permissions }

/-! ### Claims about validity -/

/-- The names in a claim that holds one text or a list of them. -/
def names? : Json.Reader (List String)
  | _, .text content => content.map ([·])
  | budget, d => Json.Reader.list .text budget d

/-- A time in whole seconds; a fraction is rounded. -/
def time? : Json.Document → Option Nat
  | .number lit =>
    match Json.Number.ofLiteral? lit with
    | some (.integer n _) => if 0 ≤ n then some n.toNat else none
    | some (.double x) =>
      if (!x.negative || x.isZero) && x.magnitude.1 < 0x10000000000000000 * x.magnitude.2 then
        some x.roundedMagnitude
      else none
    | none => none
  | _ => none

/-- The claims that decide whether a token is valid. -/
structure ValidityClaims where
  expiry : Option Nat
  subject : Option String
  issuers : Option (List String)
  audiences : Option (List String)
  deriving DecidableEq

/-- Reads the claims about validity. -/
def ValidityClaims.ofDocument? : Json.Reader ValidityClaims := fun budget d ↦ do
  let r ← Json.Record.ofDocument? ["exp", "nbf", "sub", "iss", "aud"] budget d
  let find := fun {α : Type} (name : String) (read : Json.Reader α) ↦ r.required name read
  some
    { expiry := find "exp" fun _ d ↦ time? d
      subject := find "sub" .text
      issuers := find "iss" names?
      audiences := find "aud" names? }

end AccountDirectory.Token
