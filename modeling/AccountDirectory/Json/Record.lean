import AccountDirectory.Json.Value

/-!
# Records in documents

A record has named fields in a declared order. A document spells it

* as an object: members under other names are skipped whatever they hold, a field's name stands at
  most once, and every name is text; or
* as a list of the fields in declared order, of which the last ones may be missing.

A field that is not there takes its default, if it has one. `null` is no value of a field, unless
the field is optional.
-/

namespace AccountDirectory.Json

/-- Reads a value of a document, below the containers that `budget` still allows. -/
abbrev Reader (α : Type) := (budget : Nat) → Document → Option α

namespace Reader

/-- A truth value. -/
def bool : Reader Bool
  | _, .bool b => some b
  | _, _ => none

/-- A string with a text. -/
def text : Reader String
  | _, .text content => content
  | _, _ => none

/-- A name, or an object whose one member has that name and holds nothing. -/
def name (holdsNothing : Document → Bool) : Reader String
  | _, .text content => content
  | budget, .object [(content, d)] => if budget ≠ 0 ∧ holdsNothing d then content else none
  | _, _ => none

/-- An integer from zero up to below `bound`. -/
def natural (bound : Nat) : Reader Nat
  | _, .number lit =>
    match Number.ofLiteral? lit with
    | some (.integer n _) => if 0 ≤ n ∧ n < bound then some n.toNat else none
    | _ => none
  | _, _ => none

/-- A free-form value. -/
def value : Reader Value := Value.ofDocument?

/-- A list of such values. -/
def list {α : Type} (item : Reader α) : Reader (List α)
  | budget, .list items => if budget = 0 then none else items.mapM (item (budget - 1))
  | _, _ => none

/-- Such a value, or `null` for none. -/
def nullable {α : Type} (item : Reader α) : Reader (Option α)
  | _, .null => some none
  | budget, d => (item budget d).map some

end Reader

/-- The fields of a record that a document spells, and the budget for what they hold. -/
structure Record where
  fields : List (String × Document)
  budget : Nat

namespace Record

/-- Each member with the text of its key, if all have one. -/
def named? : List (Option String × Document) → Option (List (String × Document))
  | [] => some []
  | (key, d) :: rest => do
    let key ← key
    let later ← named? rest
    some ((key, d) :: later)

/-- No name stands twice. -/
def distinct : List String → Bool
  | [] => true
  | name :: rest => !rest.contains name && distinct rest

/-- The record with these fields that a document spells. -/
def ofDocument? (names : List String) (budget : Nat) : Document → Option Record
  | .object members =>
    if budget = 0 then none
    else do
      let members ← named? members
      let fields := members.filter fun (name, _) ↦ names.contains name
      if distinct (fields.map Prod.fst) then some ⟨fields, budget - 1⟩ else none
  | .list items =>
    if budget = 0 ∨ names.length < items.length then none
    else some ⟨names.zip items, budget - 1⟩
  | _ => none

variable {α : Type}

/-- A field that must be there. -/
def required (r : Record) (name : String) (read : Reader α) : Option α :=
  (r.fields.lookup name).bind (read r.budget)

/-- A field with a default. -/
def defaulted (r : Record) (name : String) (default : α) (read : Reader α) : Option α :=
  match r.fields.lookup name with
  | none => some default
  | some d => read r.budget d

/-- A field that may be missing or `null`. -/
def optional (r : Record) (name : String) (read : Reader α) : Option (Option α) :=
  r.defaulted name none read.nullable

end Record

end AccountDirectory.Json
