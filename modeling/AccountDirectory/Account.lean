import AccountDirectory.User

/-!
# Accounts

An `Account` is a user as the directory stores it, with the identities under which that user can
sign in. It is read from the directory's answers and turned into a `User` before anything else sees
it.
-/

namespace AccountDirectory

/-- The id that a connection gives to an identity: mostly a text, sometimes another value. -/
inductive IdentityId
  | text (s : String)
  | other (v : Json.Value)

namespace IdentityId

/-- The id, if it is a text. -/
def asText : IdentityId → Option String
  | .text s => some s
  | .other _ => none

/-- Reads an id of either kind. -/
def ofDocument? : Json.Reader IdentityId := fun budget d ↦
  (Json.Value.ofDocument? budget d).map fun
    | .text s => .text s
    | v => .other v

/-- The JSON form of an id. -/
def toJson : IdentityId → Json.Value
  | .text s => .text s
  | .other v => v

end IdentityId

/-- A way to sign in. -/
structure Identity where
  connection : String := ""
  provider : Option String := none
  userId : Option IdentityId := none
  isSocial : Option Bool := none

namespace Identity

/-- The connection that holds usernames and passwords. -/
def passwordConnection : String := "Username-Password-Authentication"

/-- The identity belongs to the connection of usernames and passwords. -/
def isPassword (i : Identity) : Bool := i.connection == passwordConnection

/-- The id, if it is there and a text. -/
def textId? (i : Identity) : Option String := i.userId.bind IdentityId.asText

/-- The fields of the JSON form, in their order. -/
def fieldNames : List String := ["connection", "provider", "user_id", "isSocial"]

/-- Reads an identity; every field has a default. -/
def ofDocument? : Json.Reader Identity := fun budget d ↦ do
  let r ← Json.Record.ofDocument? fieldNames budget d
  let connection ← r.defaulted "connection" "" .text
  let provider ← r.optional "provider" .text
  let userId ← r.optional "user_id" IdentityId.ofDocument?
  let isSocial ← r.optional "isSocial" .bool
  some { connection, provider, userId, isSocial }

/-- The JSON form of an identity; optional fields only when present. -/
def toJson (i : Identity) : Json.Value :=
  .object <|
    [("connection", .text i.connection)] ++
    (i.provider.map fun s ↦ ("provider", .text s)).toList ++
    (i.userId.map fun id ↦ ("user_id", id.toJson)).toList ++
    (i.isSocial.map fun b ↦ ("isSocial", .bool b)).toList

end Identity

/-- A user as the directory stores it. -/
structure Account where
  userId : String := ""
  email : Option String := none
  emailVerified : Option Bool := none
  username : Option String := none
  name : Option String := none
  nickname : Option String := none
  picture : Option String := none
  identities : List Identity := []
  metadata : Option Metadata := none

namespace Account

/-- The fields of the JSON form, in their order. -/
def fieldNames : List String :=
  ["user_id", "email", "email_verified", "username", "name", "nickname", "picture", "identities",
    "user_metadata"]

/-- Reads an account; every field has a default. -/
def ofDocument? : Json.Reader Account := fun budget d ↦ do
  let r ← Json.Record.ofDocument? fieldNames budget d
  let userId ← r.defaulted "user_id" "" .text
  let email ← r.optional "email" .text
  let emailVerified ← r.optional "email_verified" .bool
  let username ← r.optional "username" .text
  let name ← r.optional "name" .text
  let nickname ← r.optional "nickname" .text
  let picture ← r.optional "picture" .text
  let identities ← r.defaulted "identities" [] (.list Identity.ofDocument?)
  let metadata ← r.optional "user_metadata" Metadata.ofDocument?
  some { userId, email, emailVerified, username, name, nickname, picture, identities, metadata }

/-- The JSON form of an account; optional fields only when present. -/
def toJson (a : Account) : Json.Value :=
  .object <|
    [("user_id", .text a.userId)] ++
    (a.email.map fun s ↦ ("email", .text s)).toList ++
    (a.emailVerified.map fun b ↦ ("email_verified", .bool b)).toList ++
    (a.username.map fun s ↦ ("username", .text s)).toList ++
    (a.name.map fun s ↦ ("name", .text s)).toList ++
    (a.nickname.map fun s ↦ ("nickname", .text s)).toList ++
    (a.picture.map fun s ↦ ("picture", .text s)).toList ++
    [("identities", .list (a.identities.map Identity.toJson))] ++
    (a.metadata.map fun m ↦ ("user_metadata", m.toJson)).toList

/-- The user that an account describes: no subject and no token, since nothing was verified. -/
def toUser (a : Account) : User :=
  { userId := a.userId, username := a.username.getD "", primaryEmail := a.email.getD "",
    metadata := a.metadata }

/-- A field of a user, absent when it is empty. -/
def nonEmpty? (s : String) : Option String := if s.isEmpty then none else some s

/-- The account that says what a user says. -/
def ofUser (u : User) : Account :=
  { userId := u.userId, email := nonEmpty? u.primaryEmail, username := nonEmpty? u.username,
    metadata := u.metadata }

end Account

end AccountDirectory
