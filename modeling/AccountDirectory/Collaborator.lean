import AccountDirectory.Account
import AccountDirectory.Claims
import AccountDirectory.Criteria
import AccountDirectory.Program

/-!
# The collaborators of the service

The service itself holds no state and reaches nothing. It asks three collaborators: a source of
service tokens, a verifier of bearer tokens, and the directory. Each request to the directory
carries the bearer token that the service chose.
-/

namespace AccountDirectory

/-- The scope that a token needs to read its owner's record. -/
def readScope : String := "read:current_user"

/-- The scope that a token needs to update its owner's metadata. -/
def updateScope : String := "update:current_user_metadata"

/-- What the service asks for. -/
inductive Collaborator
  /-- A service token. -/
  | credential
  /-- The claims of a bearer token that grants a scope. -/
  | verify (token scope : String)
  /-- The account with an id. -/
  | get (token userId : String)
  /-- The accounts that match a term. -/
  | search (token : String) (criteria : Criteria) (term : String)
  /-- The metadata of an account replaced, as the directory then reports it. -/
  | patch (token userId : String) (metadata : Metadata)

namespace Collaborator

/-- What a collaborator answers. -/
abbrev Answer : Collaborator → Type
  | credential => Except CredentialError String
  | verify .. => Except TokenError Claims
  | get .. => Except GatewayError (Option Account)
  | search .. => Except GatewayError (List Account)
  | patch .. => Except GatewayError (Option Metadata)

end Collaborator

end AccountDirectory
