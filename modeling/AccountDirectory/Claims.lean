import AccountDirectory.Text.Blank

/-!
# Claims of a verified token

Claims are a subject and the scopes granted to it, each scope once, in the order of first mention.
They are gathered by a `Claims.Builder`, because a token may name its scopes as one text, as a list,
or under permissions.
-/

namespace AccountDirectory

/-- The claims of a verified token. -/
structure Claims where
  subject : String
  scopes : List String
  deriving DecidableEq

namespace Claims

/-- The scope is granted. -/
def hasScope (claims : Claims) (scope : String) : Bool := claims.scopes.contains scope

/-- The first mention of each entry, in order. -/
def firstMentions : List String → List String
  | [] => []
  | s :: rest => s :: (firstMentions rest).filter (· ≠ s)

/-- Claims in the making. -/
structure Builder where
  subject : Option String := none
  scopes : List String := []

namespace Builder

/-- Sets the subject. -/
def withSubject (b : Builder) (subject : String) : Builder := { b with subject := some subject }

/-- Sets the scopes, in place of those gathered before. -/
def withScopes (b : Builder) (scopes : List String) : Builder := { b with scopes := scopes }

/-- Adds scopes. -/
def addScopes (b : Builder) (scopes : List String) : Builder :=
  { b with scopes := b.scopes ++ scopes }

/-- Adds the words of a scope text. -/
def addScopeText (b : Builder) (text : String) : Builder :=
  b.addScopes ((Text.words text.toList).map String.ofList)

/-- The claims gathered. -/
def build (b : Builder) : Claims := ⟨b.subject.getD "", firstMentions b.scopes⟩

end Builder

end Claims

end AccountDirectory
