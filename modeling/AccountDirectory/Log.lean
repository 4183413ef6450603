/-!
# Log entries

An operation says what it is doing in entries of three kinds: the opening of a span, a field
recorded on the open span later, and an event. Field values are texts, so an entry shows exactly
what leaves the program.
-/

namespace AccountDirectory

/-- How much an event matters. -/
inductive Level
  | debug
  | info
  | warn
  | error
  deriving DecidableEq

/-- Named texts. -/
abbrev Fields := List (String × String)

/-- An entry of the log. -/
inductive LogEntry
  | span (name : String) (fields : Fields)
  | record (fields : Fields)
  | event (level : Level) (message : String) (fields : Fields)
  deriving DecidableEq

end AccountDirectory
