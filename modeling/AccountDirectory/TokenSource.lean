import AccountDirectory.Effect
import AccountDirectory.Error
import AccountDirectory.ErrorBody
import AccountDirectory.Settings
import AccountDirectory.Tenant

/-!
# The source of service tokens

A service token is obtained with the application's credentials and kept until shortly before it
expires, at most for a day. The lock on the kept token is held while a new one is obtained, so
concurrent callers wait for one request; a caller whose request fails leaves the kept token as it
was.
-/

namespace AccountDirectory

/-- A source of service tokens. -/
structure TokenSource where
  /-- The address of the token endpoint. -/
  address : String
  clientId : String
  clientSecret : String
  audience : String
  /-- How many seconds before its expiry a token is replaced. -/
  refreshMargin : Nat
  deriving DecidableEq

/-- What the token endpoint answers. -/
structure GrantedToken where
  token : String
  /-- How many seconds the token is valid. -/
  expiresIn : Nat
  kind : Option String
  deriving DecidableEq

namespace GrantedToken

/-- Reads an answer of the token endpoint. -/
def ofDocument? : Json.Reader GrantedToken := fun budget d ↦ do
  let r ← Json.Record.ofDocument? ["access_token", "expires_in", "token_type"] budget d
  let token ← r.required "access_token" .text
  let expiresIn ← r.required "expires_in" (.natural 0x10000000000000000)
  let kind ← r.optional "token_type" .text
  some { token, expiresIn, kind }

/-- Reads an answer from the octets of a body. -/
def ofOctets? (body : List UInt8) : Option GrantedToken :=
  (Json.Document.ofOctets? body).bind (ofDocument? Json.nestingLimit)

end GrantedToken

namespace TokenSource

/-! ### Construction -/

/-- The source for the tenant with a domain. -/
def build (domain : String) (settings : ServiceTokenSettings) : Except SetupError TokenSource :=
  if Text.isBlankText domain then .error ⟨"domain"⟩
  else if Text.isBlankText settings.clientId then .error ⟨"m2m.client_id"⟩
  else if settings.clientSecret.isEmpty then .error ⟨"m2m.client_secret"⟩
  else
    let base := Tenant.baseAddress domain
    .ok
      { address := base ++ "/oauth/token"
        clientId := settings.clientId
        clientSecret := settings.clientSecret
        audience := (Tenant.unlessBlank settings.audience).getD (base ++ "/api/v2/")
        refreshMargin := settings.refreshMargin }

/-- The same source with its endpoint at another base address. -/
def atBase (source : TokenSource) (base : String) : TokenSource :=
  { source with address := Tenant.trimSlashes base ++ "/oauth/token" }

/-! ### Lifetimes -/

/-- The longest time that a token is kept, in seconds. -/
def longestLifetime : Nat := 24 * 60 * 60

/-- How many seconds a token is kept. -/
def lifetime (source : TokenSource) (expiresIn : Nat) : Nat :=
  min (expiresIn - source.refreshMargin) longestLifetime

/-- What is kept of a token that is stored at a time. -/
def entry (source : TokenSource) (granted : GrantedToken) (now : Nat) : CachedToken :=
  ⟨granted.token, now + 1000 * source.lifetime granted.expiresIn⟩

/-! ### Obtaining a token -/

/-- A step towards a token: it may fail. -/
abbrev Step (α : Type) : Type := ExceptT CredentialError (Program Effect Effect.Answer) α

/-- What is sent to the token endpoint. -/
def requestBody (source : TokenSource) : Json.Value :=
  .object
    [("grant_type", .text "client_credentials"), ("client_id", .text source.clientId),
      ("client_secret", .text source.clientSecret), ("audience", .text source.audience)]

/-- The detail of an answer that is not of the expected shape. -/
def unreadable : String := "error decoding response body"

/-- Obtains a new token. -/
def fetch (source : TokenSource) : Step GrantedToken := do
  let answer ← ExceptT.lift (Procedure.exchange .post source.address none (some source.requestBody))
  match answer with
  | .error e => throw (.request e.message)
  | .ok response =>
    if Http.isSuccess response.status then
      match GrantedToken.ofOctets? response.body with
      | some granted => pure granted
      | none => throw (.decode unreadable)
    else
      throw (.rejected response.status (ErrorBody.explain response.status response.text))

/-- The kept token, while it need not be replaced. -/
def kept : Procedure (Option String) := do
  match ← Procedure.call .cachedToken with
  | none => pure none
  | some entry =>
    let now ← Procedure.call .steadyClock
    pure (if now < entry.refreshAt then some entry.token else none)

/-- What is logged of a token of another kind than `Bearer`. -/
def kindEntries (granted : GrantedToken) : List LogEntry :=
  match granted.kind with
  | some kind =>
    if Text.asciiLower kind.toList = "bearer".toList then []
    else [.event .warn "unexpected M2M token type" [("token_type", kind)]]
  | none => []

/-- Obtains a new token and keeps it. -/
def refresh (source : TokenSource) : Step String := do
  let granted ← source.fetch
  (kindEntries granted).forM fun e ↦ ExceptT.lift (Procedure.log e)
  let now ← ExceptT.lift (Procedure.call .steadyClock)
  ExceptT.lift (Procedure.log
    (.event .debug "M2M token refreshed" [("expires_in", toString granted.expiresIn)]))
  ExceptT.lift (Procedure.call (.storeToken (source.entry granted now)))
  pure granted.token

/-- The kept token, or a new one. -/
def keptOrNew (source : TokenSource) : Step String := do
  match ← ExceptT.lift kept with
  | some token => pure token
  | none => source.refresh

/-- A service token. -/
def getToken (source : TokenSource) : Procedure (Except CredentialError String) := do
  Procedure.call .lockToken
  let outcome ← source.keptOrNew.run
  Procedure.call .unlockToken
  pure outcome

end TokenSource

end AccountDirectory
