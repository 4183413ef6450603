/-!
# What can go wrong

Each collaborator of the directory service has failures of its own, the service has
`DirectoryError`, and a client sees `ClientError`, which no longer tells where a message came from.
A type lists causes; the wording of each cause is in its `message` and nowhere else.

## How failures travel

* A token failure passes through every level unchanged.
* A status answered by the directory becomes the matching `DirectoryError` (`ofStatus`).
* Any other failure of a collaborator is kept as the cause of an `unexpected` error, and its text is
  appended to the message that a client sees.
-/

namespace AccountDirectory

/-! ### Failures of the collaborators -/

/-- Why a bearer token was refused. -/
inductive TokenError
  | missing
  | malformed (detail : String)
  | expired
  | invalid (detail : String)
  | insufficientScope (required : String)
  | keysUnavailable (detail : String)
  deriving DecidableEq

/-- The wording of a token failure. -/
def TokenError.message : TokenError → String
  | .missing => "token is required"
  | .malformed detail => "malformed token: " ++ detail
  | .expired => "token expired"
  | .invalid detail => "invalid token: " ++ detail
  | .insufficientScope required => "insufficient scope: '" ++ required ++ "' is required"
  | .keysUnavailable detail => "signing keys unavailable: " ++ detail

/-- Why no service token could be obtained. -/
inductive CredentialError
  /-- The token endpoint was not reached. -/
  | request (detail : String)
  /-- The token endpoint answered with a status other than success. -/
  | rejected (status : Nat) (reason : String)
  /-- The token endpoint answered something unreadable. -/
  | decode (detail : String)
  deriving DecidableEq

/-- The wording of a credential failure. -/
def CredentialError.message : CredentialError → String
  | .request detail => "token request failed: " ++ detail
  | .rejected status reason =>
    "token endpoint rejected the request (" ++ toString status ++ "): " ++ reason
  | .decode detail => "invalid token response: " ++ detail

/-- Why a request to the directory gave no answer. -/
inductive GatewayError
  /-- The directory answered with a status other than success. -/
  | status (code : Nat) (reason : String)
  /-- The directory was not reached. -/
  | transport (detail : String)
  /-- The directory answered something unreadable. -/
  | decode (detail : String)
  deriving DecidableEq

/-- The wording of a gateway failure. -/
def GatewayError.message : GatewayError → String
  | .status code reason => "directory returned status " ++ toString code ++ ": " ++ reason
  | .transport detail => "directory request failed: " ++ detail
  | .decode detail => "failed to decode directory response: " ++ detail

/-! ### Failures of the service -/

/-- What lies behind an unexpected failure. -/
inductive Cause
  | text (detail : String)
  | gateway (e : GatewayError)
  | credential (e : CredentialError)
  deriving DecidableEq

/-- The wording of a cause. -/
def Cause.message : Cause → String
  | .text detail => detail
  | .gateway e => e.message
  | .credential e => e.message

/-- A failure of a service operation. -/
inductive DirectoryError
  | validation (field reason : String)
  | notFound (reason : String)
  | unauthorized (reason : String)
  | forbidden (reason : String)
  | conflict (reason : String)
  | unavailable (reason : String)
  | unexpected (reason : String) (cause : Option Cause)
  | token (e : TokenError)
  | cancelled
  deriving DecidableEq

namespace DirectoryError

/-- The wording of a service failure; a cause is not part of it. -/
def message : DirectoryError → String
  | .validation field reason => "validation failed: " ++ field ++ ": " ++ reason
  | .notFound reason => reason
  | .unauthorized reason => "unauthorized: " ++ reason
  | .forbidden reason => "forbidden: " ++ reason
  | .conflict reason => "conflict: " ++ reason
  | .unavailable reason => "directory unavailable: " ++ reason
  | .unexpected reason _ => reason
  | .token e => e.message
  | .cancelled => "operation cancelled"

/-- No user fits the request. -/
def userNotFound : DirectoryError := .notFound "user not found"

/-- The failure that a status of the directory stands for. -/
def ofStatus (status : Nat) (reason : String) : DirectoryError :=
  if status = 400 then .validation "request" reason
  else if status = 401 then .unauthorized reason
  else if status = 403 then .forbidden reason
  else if status = 404 then .notFound reason
  else if status = 409 then .conflict reason
  else if status = 429 ∨ status = 502 ∨ status = 503 ∨ status = 504 then .unavailable reason
  else
    .unexpected ("directory responded with status " ++ toString status ++ ": " ++ reason) none

/-- An outcome that is a normal answer rather than a fault. -/
def isExpected : DirectoryError → Bool
  | .notFound _ | .validation .. | .token _ | .cancelled => true
  | _ => false

/-- What lies behind the failure, if anything does. -/
def cause : DirectoryError → Option Cause
  | .unexpected _ cause => cause
  | _ => none

end DirectoryError

/-! ### Failures that a client sees -/

/-- A failure of a client operation. -/
inductive ClientError
  | validation (reason : String)
  | notFound (reason : String)
  | unauthorized (reason : String)
  | forbidden (reason : String)
  | conflict (reason : String)
  | serviceUnavailable (reason : String)
  | unexpected (reason : String)
  | token (e : TokenError)
  | cancelled
  deriving DecidableEq

namespace ClientError

/-- The wording of a client failure. -/
def message : ClientError → String
  | .validation reason => "Validation error: " ++ reason
  | .notFound reason => "Not found: " ++ reason
  | .unauthorized reason => "Unauthorized: " ++ reason
  | .forbidden reason => "Access denied: " ++ reason
  | .conflict reason => "Conflict: " ++ reason
  | .serviceUnavailable reason => "Service unavailable: " ++ reason
  | .unexpected reason => "Unexpected error: " ++ reason
  | .token e => e.message
  | .cancelled => "Operation cancelled"

/-- What a client sees of a service failure. -/
def ofDirectory : DirectoryError → ClientError
  | .validation field reason => .validation (field ++ ": " ++ reason)
  | .notFound reason => .notFound reason
  | .unauthorized reason => .unauthorized reason
  | .forbidden reason => .forbidden reason
  | .conflict reason => .conflict reason
  | .unavailable reason => .serviceUnavailable reason
  | .unexpected reason none => .unexpected reason
  | .unexpected reason (some cause) => .unexpected (reason ++ ": " ++ cause.message)
  | .token e => .token e
  | .cancelled => .cancelled

end ClientError

/-! ### Failures of construction -/

/-- A setting without which a collaborator cannot be built. -/
structure SetupError where
  /-- The name of the setting. -/
  setting : String
  deriving DecidableEq

/-- The wording of a construction failure. -/
def SetupError.message (e : SetupError) : String := "missing configuration: " ++ e.setting

end AccountDirectory
