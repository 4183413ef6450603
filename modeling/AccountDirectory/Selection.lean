import AccountDirectory.Account
import AccountDirectory.Criteria
import AccountDirectory.Log
import AccountDirectory.Redaction

/-!
# Choosing among the accounts of a search

The directory matches a username against the ids of all identities of an account, whatever their
connection. So a search may return accounts whose social identity has the id while their password
identity is someone else's, and every account is checked again here.

The accounts are scanned in order, and the first password identity with a text id decides: it
confirms its account, unless the search is by username and that id is another one, in which case
nobody is found. Password identities whose id is not a text are passed over.
-/

namespace AccountDirectory.Selection

/-- What is noted of a password identity that is passed over. -/
def passedOver (account : Account) : LogEntry :=
  .event .debug "password identity without a string id, skipping"
    [("user_id", Redaction.redact account.userId)]

/-- The first text id among the password identities, with a note for each one passed over before
it. -/
def confirm (account : Account) : List Identity → List LogEntry × Option String
  | [] => ([], none)
  | identity :: rest =>
    if identity.isPassword then
      match identity.textId? with
      | some id => ([], some id)
      | none =>
        let (notes, id) := confirm account rest
        (passedOver account :: notes, id)
    else confirm account rest

/-- What is noted of an account that was matched by another identity. -/
def otherIdentity (requested found : String) : LogEntry :=
  .event .debug "search matched a different password identity"
    [("requested", Redaction.redact requested), ("found", Redaction.redact found)]

/-- The outcome of a search, with the notes taken on the way. -/
def scan (criteria : Criteria) (requested : String) :
    List Account → List LogEntry × Except DirectoryError User
  | [] => ([], .error .userNotFound)
  | account :: rest =>
    match confirm account account.identities with
    | (notes, none) =>
      let (later, outcome) := scan criteria requested rest
      (notes ++ later, outcome)
    | (notes, some id) =>
      if criteria = .username ∧ id ≠ requested then
        (notes ++ [otherIdentity requested id], .error .userNotFound)
      else (notes, .ok { account.toUser with username := id })

/-- The outcome of a search. -/
def select (accounts : List Account) (criteria : Criteria) (requested : String) :
    Except DirectoryError User :=
  (scan criteria requested accounts).2

end AccountDirectory.Selection
