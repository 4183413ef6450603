import AccountDirectory.Json.Document

/-!
# Free-form values of JSON

A `Value` is what a document means where no shape is prescribed: of a repeated member the last one
counts, the members of an object stand in the order of their keys, numbers have values and strings
have texts.

`ofDocument?` refuses numbers beyond the doubles, strings without a text and more nested containers
than its budget; `nestingLimit` is the budget of a whole text.
-/

namespace AccountDirectory.Json

/-- A free-form value. -/
inductive Value
  | null
  | bool (b : Bool)
  | number (n : Number)
  | text (s : String)
  | list (items : List Value)
  | object (members : List (String × Value))
  deriving Inhabited

/-- How many containers of a text may be nested in one another. -/
def nestingLimit : Nat := 127

/-- Puts a member into an object in the order of the keys, in place of a member with that key. -/
def insertMember (key : String) (v : Value) : List (String × Value) → List (String × Value)
  | [] => [(key, v)]
  | (k, w) :: rest =>
    if key < k then (key, v) :: (k, w) :: rest
    else if key = k then (key, v) :: rest
    else (k, w) :: insertMember key v rest

/-- The object with these members, of repeated ones the last. -/
def objectOf (members : List (String × Value)) : List (String × Value) :=
  members.foldl (fun object (key, v) ↦ insertMember key v object) []

namespace Value

mutual

/-- The value that a document means, if at most `budget` containers are nested in it. -/
def ofDocument? (budget : Nat) : Document → Option Value
  | .null => some .null
  | .bool b => some (.bool b)
  | .number lit => (Number.ofLiteral? lit).map .number
  | .text content => content.map .text
  | .list items =>
    if budget = 0 then none else (ofItems? (budget - 1) items).map .list
  | .object members =>
    if budget = 0 then none
    else (ofMembers? (budget - 1) members).map fun ms ↦ .object (objectOf ms)

/-- The values of the items of a list. -/
def ofItems? (budget : Nat) : List Document → Option (List Value)
  | [] => some []
  | d :: rest => do
    let v ← ofDocument? budget d
    let later ← ofItems? budget rest
    some (v :: later)

/-- The members of an object in their written order. -/
def ofMembers? (budget : Nat) : List (Option String × Document) → Option (List (String × Value))
  | [] => some []
  | (key, d) :: rest => do
    let key ← key
    let v ← ofDocument? budget d
    let later ← ofMembers? budget rest
    some ((key, v) :: later)

end

/-- The value that a text spells. -/
def ofText? (s : String) : Option Value := (Document.ofText? s).bind (ofDocument? nestingLimit)

/-- The value is an object. -/
def isObject : Value → Bool
  | .object _ => true
  | _ => false

/-- The member of an object under a key. -/
def member? (key : String) : Value → Option Value
  | .object members => members.lookup key
  | _ => none

end Value

end AccountDirectory.Json
