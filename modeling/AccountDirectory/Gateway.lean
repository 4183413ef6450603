import AccountDirectory.Account
import AccountDirectory.Criteria
import AccountDirectory.Effect
import AccountDirectory.ErrorBody
import AccountDirectory.Tenant

/-!
# The directory over HTTP

Three requests reach the directory: a user by id, a search, and a change of metadata. Ids and terms
are escaped, so nothing in them ends their place in the address. An id that is a dot or two is not
changed by that, and as a segment of a path it is a step.

A successful answer that is blank or `null` means that there is nothing; any other body has to be of
the shape that the request asks for.
-/

namespace AccountDirectory

/-- The directory of a tenant, by its base address. -/
structure Gateway where
  baseAddress : String
  deriving DecidableEq

namespace Gateway

/-- The directory at a base address. -/
def atBase (baseAddress : String) : Gateway := ⟨Tenant.trimSlashes baseAddress⟩

/-- The directory of the tenant with a domain. -/
def ofDomain (domain : String) : Gateway := atBase (Tenant.baseAddress domain)

/-! ### Addresses -/

/-- A text escaped for a place in an address. -/
def escaped (s : String) : String := String.ofList (Text.Percent.encode s.toList)

/-- The address of a user. -/
def userAddress (g : Gateway) (userId : String) : String :=
  g.baseAddress ++ "/api/v2/users/" ++ escaped userId

/-- The address of a search. -/
def searchAddress (g : Gateway) : Criteria → String → String
  | .email, term => g.baseAddress ++ "/api/v2/users-by-email?email=" ++ escaped term
  | .username, term =>
    g.baseAddress ++ "/api/v2/users?q=identities.user_id:" ++ escaped term ++ "&search_engine=v3"

/-! ### Bodies -/

/-- The detail of a body that is not of the expected shape. -/
def unreadable : String := "the body does not have the expected shape"

/-- Reads a body that may mean nothing. -/
def decodeBody {α : Type} (read : Json.Reader α) (body : String) :
    Except GatewayError (Option α) :=
  if Text.isBlankText body then .ok none
  else
    match (Json.Document.ofText? body).bind (read.nullable Json.nestingLimit) with
    | some found => .ok found
    | none => .error (.decode unreadable)

/-- The body of a change of metadata. -/
def patchBody (metadata : Metadata) : Json.Value := .object [("user_metadata", metadata.toJson)]

/-- Reads the metadata out of the answer to a change. -/
def storedMetadata : Json.Reader (Option Metadata) := fun budget d ↦ do
  let r ← Json.Record.ofDocument? ["user_metadata"] budget d
  r.optional "user_metadata" Metadata.ofDocument?

/-! ### Requests -/

/-- A step of a request: it may fail. -/
abbrev Step (α : Type) : Type := ExceptT GatewayError (Program Effect Effect.Answer) α

/-- What is logged of a refusal. -/
def refusalEntry (status : Nat) (reason : String) : LogEntry :=
  .event .debug "directory rejected request" [("status", toString status), ("message", reason)]

/-- Sends a request and gives the body of a successful answer. -/
def send (method : Http.Method) (address token : String) (body : Option Json.Value) :
    Step String := do
  let answer ← ExceptT.lift (Procedure.exchange method address (some token) body)
  match answer with
  | .error e => throw (.transport e.message)
  | .ok response =>
    if Http.isSuccess response.status then pure response.text
    else
      let reason := ErrorBody.explain response.status response.text
      ExceptT.lift (Procedure.log (refusalEntry response.status reason))
      throw (.status response.status reason)

/-- Fetches the account with an id. -/
def getUser (g : Gateway) (token userId : String) : Step (Option Account) := do
  let body ← send .get (g.userAddress userId) token none
  ExceptT.mk (.done (decodeBody Account.ofDocument? body))

/-- Searches accounts. -/
def searchUsers (g : Gateway) (token : String) (criteria : Criteria) (term : String) :
    Step (List Account) := do
  let body ← send .get (g.searchAddress criteria term) token none
  let found ← ExceptT.mk (.done (decodeBody (.list Account.ofDocument?) body))
  pure (found.getD [])

/-- Replaces metadata, and gives the metadata that the directory then reports. -/
def patchMetadata (g : Gateway) (token userId : String) (metadata : Metadata) :
    Step (Option Metadata) := do
  let body ← send .patch (g.userAddress userId) token (some (patchBody metadata))
  let found ← ExceptT.mk (.done (decodeBody storedMetadata body))
  pure found.join

end Gateway

end AccountDirectory
