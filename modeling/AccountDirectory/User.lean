import AccountDirectory.Json.Canonical
import AccountDirectory.Json.Printer
import AccountDirectory.Json.Record

/-!
# Users

A `User` is the record that a caller hands in and gets back. Its token never leaves the program: the
record's JSON form neither writes nor reads it.

A user's metadata is an object of free-form values that is carried and not interpreted.
-/

namespace AccountDirectory

/-- Metadata of a user: an object, its keys in rising order at every depth. -/
structure Metadata where
  members : List (String × Json.Value)
  canonical : (Json.Value.object members).isCanonical = true

namespace Metadata

/-- No metadata keys. -/
def empty : Metadata := ⟨[], rfl⟩

/-- The object that the metadata is. -/
def toJson (m : Metadata) : Json.Value := .object m.members

/-- The value under a key. -/
def get? (m : Metadata) (key : String) : Option Json.Value := m.members.lookup key

/-- The number of keys. -/
def size (m : Metadata) : Nat := m.members.length

/-- Reads an object; nothing else is metadata. -/
def ofDocument? : Json.Reader Metadata := fun budget d ↦
  match h : Json.Value.ofDocument? budget d with
  | some (.object members) => some ⟨members, Json.Value.isCanonical_of_ofDocument? h⟩
  | _ => none

end Metadata

/-- A user as a caller sees it; a field that is not known is empty. -/
structure User where
  /-- The id given by the directory. -/
  userId : String := ""
  username : String := ""
  primaryEmail : String := ""
  /-- The subject of a verified token. -/
  sub : String := ""
  /-- The bearer token of the caller. -/
  token : Option String := none
  metadata : Option Metadata := none

namespace User

/-- The fields of the JSON form, in their order. -/
def fieldNames : List String := ["user_id", "username", "primary_email", "sub", "user_metadata"]

/-- Reads a user; every field has a default. -/
def ofDocument? : Json.Reader User := fun budget d ↦ do
  let r ← Json.Record.ofDocument? fieldNames budget d
  let userId ← r.defaulted "user_id" "" .text
  let username ← r.defaulted "username" "" .text
  let primaryEmail ← r.defaulted "primary_email" "" .text
  let sub ← r.defaulted "sub" "" .text
  let metadata ← r.optional "user_metadata" Metadata.ofDocument?
  some { userId, username, primaryEmail, sub, metadata }

/-- The JSON form of a user: everything except the token; metadata only when present. -/
def toJson (u : User) : Json.Value :=
  .object <|
    [("user_id", .text u.userId), ("username", .text u.username),
      ("primary_email", .text u.primaryEmail), ("sub", .text u.sub)] ++
    (u.metadata.map fun m ↦ ("user_metadata", m.toJson)).toList

end User

end AccountDirectory
