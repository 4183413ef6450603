import AccountDirectory.Collaborator
import AccountDirectory.Lookup
import AccountDirectory.Selection
import AccountDirectory.Text.LowerCase

/-!
# The directory service

Four operations resolve callers' identifiers into users and update metadata. Each is a program over
the collaborators.

## Which token a request carries

* A read carries the caller's own token when there is one, else a service token.
* An update carries the caller's token and no other. It is verified for the update scope before
  anything else is looked at, and its target is the verified subject, whatever id the caller wrote
  into the record.
-/

namespace AccountDirectory

/-- The service for one tenant of the directory. -/
structure Service where
  /-- The domain of the tenant, empty when it is not configured. -/
  domain : String

/-- A step of an operation: it may fail. -/
abbrev Action (α : Type) : Type :=
  ExceptT DirectoryError (Program Collaborator Collaborator.Answer) α

namespace Action

/-- Writes a log entry. -/
def log (entry : LogEntry) : Action Unit := ExceptT.lift (Program.log entry)

/-- Writes an event of little importance. -/
def debug (message : String) (fields : Fields := []) : Action Unit :=
  log (.event .debug message fields)

/-- Asks a collaborator, and turns its failure into one of the service. -/
def ask {ε α : Type} (op : Collaborator) (answer : Collaborator.Answer op → Except ε α)
    (failure : ε → DirectoryError) : Action α :=
  ExceptT.mk ((Program.call op).bind fun a ↦ .done ((answer a).mapError failure))

/-- Fails. -/
def fail {α : Type} (e : DirectoryError) : Action α := throw e

end Action

namespace Service

open Redaction (redact redactEmail)

/-! ### Shared steps -/

/-- Refuses to go on for a service without a domain. -/
def requireDomain (service : Service) : Action Unit :=
  if Text.isBlankText service.domain then
    .fail (.validation "domain" "directory domain is not configured")
  else pure ()

/-- The token of a read: the caller's own unless it is empty, else a service token. -/
def readToken (user : User) : Action String :=
  match user.token.filter (!·.isEmpty) with
  | some token => pure token
  | none => do
    Action.debug "no caller token, using service credentials"
    Action.ask .credential id fun e ↦ .unexpected "failed to get M2M token" (some (.credential e))

/-- The failure of a read by id: a status has its own meaning here. -/
def getFailure : GatewayError → DirectoryError
  | .status code reason => .ofStatus code reason
  | e => .unexpected "failed to get user" (some (.gateway e))

/-- The term of a search by a criteria: the trimmed username, or the trimmed email in lower case. -/
def searchTerm (user : User) : Criteria → String
  | .email => String.ofList (Text.LowerCase.lower (Text.trimBoth user.primaryEmail.toList))
  | .username => Text.trim user.username

/-- A search term as it is logged. -/
def redactTerm : Criteria → String → String
  | .email, term => redactEmail term
  | .username, term => redact term

/-! ### The operations -/

/-- Fetches a user by its id. -/
def getUser (service : Service) (user : User) : Action User := do
  Action.log (.span "get_user" [("user_id", redact user.userId)])
  if Text.isBlankText user.userId then
    Action.fail (.validation "user_id" "user id is required to get a user")
  service.requireDomain
  let token ← readToken user
  match ← Action.ask (.get token user.userId) id getFailure with
  | none =>
    Action.debug "directory answered without a user object"
    Action.fail .userNotFound
  | some account =>
    Action.debug "user retrieved"
    pure account.toUser

/-- Searches a user by the criteria with a name, and confirms the match. -/
def searchUser (service : Service) (user : User) (criteriaName : String) : Action User := do
  Action.log (.span "search_user" [("criteria", criteriaName)])
  match Criteria.ofName? criteriaName with
  | none => Action.fail (Criteria.unknown criteriaName)
  | some criteria =>
    service.requireDomain
    let term := searchTerm user criteria
    if term.isEmpty then
      Action.fail (.validation criteria.name (criteria.name ++ " is required to search a user"))
    let token ← readToken user
    Action.debug "searching directory" [("term", redactTerm criteria term)]
    let accounts ← Action.ask (.search token criteria term) id fun e ↦
      .unexpected "failed to search user" (some (.gateway e))
    Action.debug "search returned" [("candidates", toString accounts.length)]
    let (notes, outcome) := Selection.scan criteria term accounts
    notes.forM Action.log
    ExceptT.mk (.done outcome)

/-- Turns an identifier into a user record that a read can start from. -/
def lookup (input : String) : Action User := do
  Action.log (.span "metadata_lookup" [])
  match Lookup.classify input with
  | none => Action.fail (.validation "input" "input is required")
  | some (.token token) =>
    Action.debug "token lookup strategy"
    let claims ← Action.ask (.verify token readScope) id .token
    Action.debug "token verified for lookup" [("sub", redact claims.subject)]
    pure { userId := claims.subject, sub := claims.subject, token := some token }
  | some (.subject subject) =>
    Action.debug "canonical subject lookup strategy" [("sub", redact subject)]
    pure { userId := subject }
  | some (.username username) =>
    Action.debug "username lookup strategy" [("username", redact username)]
    pure { username }

/-- Replaces the metadata of the user to whom the caller's token belongs. -/
def updateUser (service : Service) (user : User) : Action User := do
  Action.log (.span "update_user" [])
  match user.token.filter (!Text.isBlankText ·) with
  | none => Action.fail (.token .missing)
  | some token =>
    let claims ← Action.ask (.verify token updateScope) id .token
    service.requireDomain
    match user.metadata with
    | none =>
      Action.fail (.validation "user_metadata" "user metadata is required for update")
    | some metadata =>
      let stored ← Action.ask (.patch token claims.subject metadata) id fun e ↦
        .unexpected "failed to update user" (some (.gateway e))
      Action.log (.event .info "user metadata updated" [("user_id", redact claims.subject)])
      pure { metadata := stored }

/-! ### Operations as values -/

/-- A call of one of the four operations. -/
inductive Call
  | getUser (user : User)
  | searchUser (user : User) (criteria : String)
  | lookup (input : String)
  | updateUser (user : User)

/-- The name of the operation, as logs show it. -/
def Call.name : Call → String
  | getUser _ => "get_user"
  | searchUser .. => "search_user"
  | lookup _ => "metadata_lookup"
  | updateUser _ => "update_user"

/-- The operation that a call asks for. -/
def perform (service : Service) : Call → Action User
  | .getUser user => service.getUser user
  | .searchUser user criteria => service.searchUser user criteria
  | .lookup input => Service.lookup input
  | .updateUser user => service.updateUser user

/-- The program of a call. -/
def program (service : Service) (call : Call) :
    Program Collaborator Collaborator.Answer (Except DirectoryError User) :=
  (service.perform call).run

end Service

end AccountDirectory
