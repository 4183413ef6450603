import AccountDirectory.Error
import AccountDirectory.Json.Record

/-!
# Search criteria

A search is by email or by username. Other names are no criteria, and the refusal quotes the name as
it was given.
-/

namespace AccountDirectory

/-- What a search compares. -/
inductive Criteria
  /-- The primary email address. -/
  | email
  /-- The id of the password identity. -/
  | username
  deriving DecidableEq

namespace Criteria

/-- The name of the criteria. -/
def name : Criteria → String
  | .email => "email"
  | .username => "username"

/-- The criteria with this exact name. -/
def ofName? (s : String) : Option Criteria :=
  if s = "email" then some .email else if s = "username" then some .username else none

/-- The wording for a name that is no criteria. -/
def unknownMessage (s : String) : String := "invalid criteria type: " ++ s

/-- The service failure for a name that is no criteria. -/
def unknown (s : String) : DirectoryError := .validation "criteria" (unknownMessage s)

/-- The criteria that a document spells: its name, or an object whose one member is that name with
the value `null`. -/
def ofDocument? : Json.Document → Option Criteria
  | .text (some s) => ofName? s
  | .object [(some s, .null)] => ofName? s
  | _ => none

end Criteria

end AccountDirectory
