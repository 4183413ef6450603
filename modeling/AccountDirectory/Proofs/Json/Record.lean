import AccountDirectory.Json.Record
import AccountDirectory.Proofs.Items

/-!
# The fields of a record, read off its document

A record that a document spells as an object holds the document's own members: a field is the first
member under its name (`Record.lookup_ofDocument?`). So what a reader of records says of a field is
said of the document, and no proof about a record has to open its reader.

`Document.member?` is that first member, and `Spells` is the shape of a claim that holds one name or
a list of them.
-/

namespace AccountDirectory.Json

/-! ### Members and names of a document -/

/-- The first member of an object under a name. -/
def Document.member? (name : String) : Document → Option Document
  | .object members => members.lookup (some name)
  | _ => none

/-- The object with these members. -/
def Document.ofFields (fields : List (String × Document)) : Document :=
  .object (fields.map fun (name, d) ↦ (some name, d))

/-- What stands under a name, in the order of the members. -/
def Document.under (name : String) (fields : List (String × Document)) : List Document :=
  (fields.filter fun (n, _) ↦ n == name).map Prod.snd

/-- The text that a document is, if it is one. -/
def Document.text? : Document → Option String
  | .text content => content
  | _ => none

/-- A document that is a text. -/
def Document.ofName (name : String) : Document := .text (some name)

/-- **The document spells these names**: one as a text, or any number as a list of texts. -/
inductive Document.Spells : Document → List String → Prop
  | one (name : String) : Spells (ofName name) [name]
  | many (names : List String) : Spells (.list (names.map ofName)) names

/-! ### Readers -/

namespace Reader

theorem text_eq_text? (budget : Nat) (d : Document) : text budget d = d.text? := by
  cases d <;> rfl

theorem text_eq_some_iff {budget : Nat} {d : Document} {s : String} :
    text budget d = some s ↔ d = .ofName s := by
  cases d with
  | text content => simp [text, Document.ofName]
  | _ => simp [text, Document.ofName]

theorem list_text_eq_some_iff {budget : Nat} (hb : budget ≠ 0) {d : Document}
    {names : List String} : list text budget d = some names ↔ d = .list (names.map .ofName) := by
  cases d with
  | list items => simp [list, hb, mapM_eq_some_iff_eq_map fun _ _ ↦ text_eq_some_iff]
  | _ => simp [list]

end Reader

/-! ### Fields -/

namespace Record

theorem named?_eq_some_iff {members : List (Option String × Document)}
    {fields : List (String × Document)} :
    named? members = some fields ↔ members = fields.map fun (name, d) ↦ (some name, d) := by
  induction members generalizing fields with
  | nil =>
    rw [named?, Option.some.injEq, eq_comm, eq_comm (a := [])]
    exact List.map_eq_nil_iff.symm
  | cons m rest ih =>
    obtain ⟨key, d⟩ := m
    simp only [named?, Option.bind_eq_bind, Option.bind_eq_some_iff, Option.some.injEq, ih]
    constructor
    · rintro ⟨name, rfl, fields, rfl, rfl⟩
      rfl
    · intro h
      cases fields with
      | nil => cases h
      | cons f fields =>
        obtain ⟨hf, rfl⟩ := List.cons.inj h
        obtain ⟨rfl, rfl⟩ := Prod.mk.inj hf
        exact ⟨f.1, rfl, fields, rfl, rfl⟩

theorem lookup_filter {names : List String} {name : String} (hn : name ∈ names)
    (fields : List (String × Document)) :
    (fields.filter fun (n, _) ↦ names.contains n).lookup name = fields.lookup name := by
  induction fields with
  | nil => rfl
  | cons f rest ih =>
    obtain ⟨n, d⟩ := f
    by_cases hk : name = n
    · subst hk
      rw [List.filter_cons_of_pos (by simpa using hn), List.lookup_cons_self,
        List.lookup_cons_self]
    · have hb : (name == n) = false := beq_false_of_ne hk
      by_cases hm : n ∈ names
      · rw [List.filter_cons_of_pos (by simpa using hm), List.lookup_cons, List.lookup_cons, hb]
        exact ih
      · rw [List.filter_cons_of_neg (by simpa using hm), List.lookup_cons, hb]
        exact ih

theorem lookup_map_some (name : String) (fields : List (String × Document)) :
    (fields.map fun (n, d) ↦ ((some n : Option String), d)).lookup (some name) =
      fields.lookup name := by
  induction fields with
  | nil => rfl
  | cons f rest ih =>
    rw [List.map_cons, List.lookup_cons, List.lookup_cons, ih]
    rfl

/-- **A field of a record is a member of its document.** -/
theorem lookup_ofDocument? {names : List String} {budget : Nat}
    {members : List (Option String × Document)} {r : Record}
    (h : ofDocument? names budget (.object members) = some r) :
    r.budget = budget - 1 ∧
      ∀ name ∈ names, r.fields.lookup name = (Document.object members).member? name := by
  rw [ofDocument?] at h
  split at h
  · cases h
  obtain ⟨fields, hf, h⟩ := Option.bind_eq_some_iff.1 h
  dsimp only at h
  split at h
  · obtain rfl := Option.some.inj h
    obtain rfl := named?_eq_some_iff.1 hf
    -- the fields are the members that the record declares, each still under its key
    refine ⟨rfl, fun name hn ↦ ?_⟩
    exact (lookup_filter hn fields).trans (lookup_map_some name fields).symm
  · cases h

end Record

end AccountDirectory.Json
