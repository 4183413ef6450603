import AccountDirectory.Claims
import AccountDirectory.Effect
import AccountDirectory.Error
import AccountDirectory.Settings
import AccountDirectory.Tenant
import AccountDirectory.Token.Header
import AccountDirectory.Token.Payload

/-!
# Verifying callers' tokens

A token is accepted when its signature is valid under the key that its header asks for, it has not
expired, it comes from the expected issuer, and it grants the required scope.

## The kept key set

Keys are looked up in a kept set, which is used for a limited time. A key that is not found there
causes one new fetch, so that a new key is found before that time is over; but while the kept set is
younger than ten seconds (and still in use), the lookup fails without one.
-/

namespace AccountDirectory

/-- A verifier of bearer tokens. -/
structure Verifier where
  /-- The issuer to accept. -/
  issuer : String
  /-- The address of the issuer's key set. -/
  keysAddress : String
  /-- The audience to accept, any when there is none. -/
  audience : Option String
  /-- How many seconds after its expiry a token is still accepted. -/
  leeway : Nat
  /-- How many seconds a key set is used. -/
  keySetLifetime : Nat
  deriving DecidableEq

namespace Verifier

/-! ### Construction -/

/-- The address of an issuer's key set. -/
def keysAddressOf (issuer : String) : String :=
  Tenant.trimSlashes issuer ++ "/.well-known/jwks.json"

/-- The verifier for tokens of an issuer. -/
def forIssuer (issuer : String) (settings : VerifierSettings) : Verifier :=
  { issuer
    keysAddress := keysAddressOf issuer
    audience := Tenant.unlessBlank settings.audience
    leeway := settings.leeway
    keySetLifetime := settings.keySetLifetime }

/-- The verifier for the tenant with a domain, or for the issuer that is set. -/
def build (domain : String) (settings : VerifierSettings) : Except SetupError Verifier :=
  match Tenant.unlessBlank settings.issuer with
  | some issuer => .ok (forIssuer (Text.trim issuer) settings)
  | none =>
    if Text.isBlankText domain then .error ⟨"jwt.issuer"⟩
    else .ok (forIssuer (Tenant.baseAddress domain ++ "/") settings)

/-! ### The kept key set -/

/-- For how many milliseconds a lookup does not fetch the set again. -/
def quietTime : Nat := 10000

/-- The kept set is still used at a time. -/
def isCurrent (v : Verifier) (entry : CachedKeys) (now : Nat) : Bool :=
  now - entry.fetchedAt ≤ 1000 * v.keySetLifetime

/-- The kept set is too young to be fetched again at a time. -/
def isYoung (v : Verifier) (entry : CachedKeys) (now : Nat) : Bool :=
  now - entry.fetchedAt < quietTime && v.isCurrent entry now

/-- A step of the verification: it may fail. -/
abbrev Step (α : Type) : Type := ExceptT TokenError (Program Effect Effect.Answer) α

/-- The key in the kept set. -/
def keptKey (v : Verifier) (keyId : Option String) : Procedure (Option Token.SigningKey) := do
  match ← Procedure.call .cachedKeys with
  | none => pure none
  | some entry =>
    let now ← Procedure.call .steadyClock
    pure (if v.isCurrent entry now then entry.keys.find? keyId else none)

/-- The kept set was fetched recently. -/
def recentlyFetched (v : Verifier) : Procedure Bool := do
  match ← Procedure.call .cachedKeys with
  | none => pure false
  | some entry =>
    let now ← Procedure.call .steadyClock
    pure (v.isYoung entry now)

/-- The detail of a key set that cannot be read. -/
def unreadable : String := "error decoding response body"

/-- Fetches the key set and keeps it. -/
def fetchKeys (v : Verifier) : Step Unit := do
  ExceptT.lift (Procedure.log (.event .debug "fetching JWKS" [("url", v.keysAddress)]))
  let answer ← ExceptT.lift (Procedure.exchange .get v.keysAddress none none)
  match answer with
  | .error e => throw (.keysUnavailable e.message)
  | .ok response =>
    if Http.isSuccess response.status then
      match Token.KeySet.ofOctets? response.body with
      | some keys =>
        let now ← ExceptT.lift (Procedure.call .steadyClock)
        ExceptT.lift (Procedure.call (.storeKeys ⟨keys, now⟩))
      | none => throw (.keysUnavailable unreadable)
    else
      throw (.keysUnavailable ("JWKS endpoint returned " ++ Http.statusText response.status))

/-- Why no key was found. -/
def missingKey : Option String → TokenError
  | some id => .invalid ("unknown signing key '" ++ id ++ "'")
  | none => .keysUnavailable "key set is empty"

/-- The key for a header. -/
def signingKey (v : Verifier) (keyId : Option String) : Step Token.SigningKey := do
  match ← ExceptT.lift (v.keptKey keyId) with
  | some key => pure key
  | none =>
    unless ← ExceptT.lift v.recentlyFetched do
      v.fetchKeys
    match ← ExceptT.lift (v.keptKey keyId) with
    | some key => pure key
    | none => throw (missingKey keyId)

/-! ### Reading a token -/

/-- The failure of a part of a token that is not in base-64. -/
def notBase64 : TokenError := .malformed "Base64 error: not a base-64 text"

/-- The failure of a part of a token that is not the expected JSON. -/
def notJson : TokenError := .malformed "JSON error: not of the expected shape"

/-- The octets that a segment spells. -/
def segmentOctets (segment : List Char) : Except TokenError (List UInt8) :=
  match Text.Base64Url.decode? segment with
  | some octets => .ok octets
  | none => .error notBase64

/-- Reads the segments of a token and its header. -/
def readHeader (token : String) : Except TokenError (Token.Segments × Token.Header) := do
  let segments ←
    match Token.Segments.ofChars? token.toList with
    | some segments => .ok segments
    | none => .error (.malformed "InvalidToken")
  let octets ← segmentOctets segments.header
  match (Json.Document.ofOctets? octets).bind Token.Header.ofDocument? with
  | some header => .ok (segments, header)
  | none => .error notJson

/-- Checks the signature of a token under a key. -/
def checkSignature (segments : Token.Segments) (key : Token.SigningKey) : Except TokenError Unit :=
  match key.material.usable? with
  | none => .error (.keysUnavailable "unusable signing key: Base64 error: not a base-64 text")
  | some .otherKind => .error (.invalid "InvalidKeyFormat")
  | some (.rsa key) => do
    let signature ← segmentOctets segments.signature
    if Signature.Rsa.verifies key (Text.Utf8.encode segments.signed) signature then .ok ()
    else .error (.invalid "InvalidSignature")

/-- Reads the claims of a token. -/
def readClaims (payload : List Char) :
    Except TokenError (Token.OwnerClaims × Token.ValidityClaims) := do
  let octets ← segmentOctets payload
  match Json.Document.ofOctets? octets with
  | none => .error notJson
  | some d =>
    match Token.OwnerClaims.ofDocument? Json.nestingLimit d,
      Token.ValidityClaims.ofDocument? Json.nestingLimit d with
    | some owner, some validity => .ok (owner, validity)
    | _, _ => .error notJson

/-! ### Checking claims -/

/-- The failure of a claim that must be there. -/
def missingClaim (name : String) : TokenError := .invalid ("Missing required claim: " ++ name)

/-- Checks the claims about validity at a time of the calendar. -/
def checkValidity (v : Verifier) (claims : Token.ValidityClaims) (now : Nat) :
    Except TokenError Unit :=
  match claims.expiry, claims.subject, claims.issuers with
  | none, _, _ => .error (missingClaim "exp")
  | _, none, _ => .error (missingClaim "sub")
  | _, _, none => .error (missingClaim "iss")
  | some expiry, some _, some issuers =>
    if expiry < now - v.leeway then .error .expired
    else if !issuers.contains v.issuer then .error (.invalid "InvalidIssuer")
    else
      match v.audience, claims.audiences with
      | some audience, some audiences =>
        if audiences.contains audience then .ok () else .error (.invalid "InvalidAudience")
      | _, _ => .ok ()

/-- The claims that a verified token makes about its owner. -/
def claimsOf (owner : Token.OwnerClaims) : Claims :=
  let start := Claims.Builder.withSubject {} owner.subject
  let named :=
    match owner.scope with
    | some (.words text) => start.addScopeText text
    | some (.list scopes) => start.withScopes scopes
    | none => start
  (named.addScopes owner.permissions).build

/-- What is logged of a token without the required scope. -/
def scopeEntry (required : String) : LogEntry :=
  .event .debug "token lacks required scope" [("required", required)]

/-- Verifies a token for a scope. -/
def verify (v : Verifier) (token scope : String) : Step Claims := do
  let (segments, header) ← ExceptT.mk (.done (readHeader token))
  if header.algorithm ≠ .rs256 then
    throw (.invalid "unsupported algorithm, only RS256 is accepted")
  let key ← v.signingKey header.keyId
  ExceptT.mk (.done (checkSignature segments key))
  let (owner, validity) ← ExceptT.mk (.done (readClaims segments.payload))
  let now ← ExceptT.lift (Procedure.call .calendar)
  ExceptT.mk (.done (v.checkValidity validity now))
  if Text.isBlankText owner.subject then
    throw (.invalid "token has no subject")
  let claims := claimsOf owner
  if claims.hasScope scope then pure claims
  else
    ExceptT.lift (Procedure.log (scopeEntry scope))
    throw (.insufficientScope scope)

end Verifier

end AccountDirectory
