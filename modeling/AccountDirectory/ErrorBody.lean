import AccountDirectory.Http.Status
import AccountDirectory.Json.Record
import AccountDirectory.Text.Blank

/-!
# Bodies of refused requests

A refusal may explain itself with a record. Of its texts the `message` is the most specific, then
the description, then the name of the error; blank texts do not count. Where the body is no such
record, or holds no text, the reason phrase of the status has to do.
-/

namespace AccountDirectory

/-- The record that explains a refusal. -/
structure ErrorBody where
  status : Option Nat := none
  error : Option String := none
  message : Option String := none
  code : Option String := none
  description : Option String := none

namespace ErrorBody

/-- The fields of the record, in their order. -/
def fieldNames : List String :=
  ["statusCode", "error", "message", "errorCode", "error_description"]

/-- Reads the record; every field is optional. -/
def ofDocument? : Json.Reader ErrorBody := fun budget d ↦ do
  let r ← Json.Record.ofDocument? fieldNames budget d
  let status ← r.optional "statusCode" (.natural 0x10000)
  let error ← r.optional "error" .text
  let message ← r.optional "message" .text
  let code ← r.optional "errorCode" .text
  let description ← r.optional "error_description" .text
  some { status, error, message, code, description }

/-- Reads the record from the text of a body. -/
def ofText? (body : String) : Option ErrorBody :=
  (Json.Document.ofText? body).bind (ofDocument? Json.nestingLimit)

/-- The most specific text of the record, trimmed. -/
def bestMessage (e : ErrorBody) : Option String :=
  [e.message, e.description, e.error].findSome? fun text? ↦
    (text?.map Text.trim).filter (!·.isEmpty)

/-- What to say of a status that no record explains. -/
def fallback (status : Nat) : String :=
  (Http.reasonPhrase? status).getD ("status " ++ toString status)

/-- What to say of a refusal with this status and body. -/
def explain (status : Nat) (body : String) : String :=
  ((ofText? body).bind bestMessage).getD (fallback status)

end ErrorBody

end AccountDirectory
