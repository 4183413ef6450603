import AccountDirectory.Proofs.Gateway.Metadata
import AccountDirectory.Proofs.Json.Shapes
import AccountDirectory.User

/-!
# Users that are written and read

A user is written without the token, and read without one: the record that is read back is the user
**without the token** (`User.withoutToken`), and nothing else is lost (`User.Fits.ofDocument?_toJson`).

**The token has no part in it.** Users that differ in the token only are written alike
(`User.toJson_eq_of_withoutToken_eq`). A member `token` of an object is skipped like any other member
that no user has (`User.ofDocument?_token`); and since the token is no field of the record, the items
of a list are the other fields in their order (`User.ofDocument?_items`).

**What has to fit.** Any texts can be written and read. The metadata has to be no deeper than a reader
allows one container further down (`User.Fits`).
-/

namespace AccountDirectory.User

open Json (Document Record Value present)
open Json.Document (ofFields)

variable {u v : User} {budget : Nat} {d : Document}

/-- The user as anyone may see it. -/
def withoutToken (u : User) : User := { u with token := none }

/-! ### The written form -/

/-- The fields of the written form, in their order. -/
def fields (u : User) : List (String × Option Value) :=
  [("user_id", some (.text u.userId)), ("username", some (.text u.username)),
    ("primary_email", some (.text u.primaryEmail)), ("sub", some (.text u.sub)),
    ("user_metadata", u.metadata.map Metadata.toJson)]

theorem toJson_eq (u : User) : u.toJson = .object (present u.fields) := by
  simp only [toJson, fields, Json.present_cons, Json.present_nil, Option.map_map,
    List.append_nil]
  rfl

theorem names_fields (u : User) : u.fields.map Prod.fst = fieldNames := rfl

theorem nodup_fieldNames : fieldNames.Nodup := by decide

theorem toJson_withoutToken (u : User) : u.withoutToken.toJson = u.toJson := rfl

/-- **Users that differ in the token only are written alike.** -/
theorem toJson_eq_of_withoutToken_eq (h : u.withoutToken = v.withoutToken) :
    u.toJson = v.toJson := by
  rw [← toJson_withoutToken u, h, toJson_withoutToken]

/-- **No token is written**: there is no member of that name. -/
theorem member?_token (u : User) : u.toJson.toDocument.member? "token" = none := by
  rw [toJson]
  cases u.metadata <;> rfl

/-! ### Reading back -/

/-- **The user fits a budget**: so does the metadata, one container further down. -/
structure Fits (budget : Nat) (u : User) : Prop where
  budget_ne : budget ≠ 0
  metadata : ∀ m ∈ u.metadata, m.toJson.toDocument.depth ≤ budget - 1

/-- **A user that fits is read back**, without the token. -/
theorem Fits.ofDocument?_toJson (h : u.Fits budget) (hk : u.toJson.keepsDoubles) :
    ofDocument? budget u.toJson.toDocument = some u.withoutToken := by
  rw [toJson_eq] at hk ⊢
  have hlookup : ∀ name v, (name, v) ∈ u.fields →
      (Record.written u.fields (budget - 1)).fields.lookup name = v.map Value.toDocument :=
    fun _ _ hm ↦ Record.lookup_written nodup_fieldNames hm
  have htext : ∀ name s, (name, some (Value.text s)) ∈ u.fields →
      (Record.written u.fields (budget - 1)).defaulted name "" .text = some s :=
    fun _ _ hm ↦ Record.defaulted_of_written (hlookup _ _ hm) rfl
  have hmetadata : ∀ m ∈ u.metadata, m.toJson ≠ .null ∧
      Metadata.ofDocument? (budget - 1) m.toJson.toDocument = some m := by
    intro m hm
    have hkeeps : m.toJson.keepsDoubles :=
      Json.keepsDoubles_of_mem "user_metadata" hk (by simp [fields, Option.mem_def.1 hm])
    exact ⟨nofun, Metadata.ofDocument?_eq_some_iff.2
      (Value.ofDocument?_toDocument m.canonical hkeeps (h.metadata m hm))⟩
  rw [ofDocument?, Record.ofDocument?_present (names_fields _) nodup_fieldNames h.budget_ne]
  simp only [Option.bind_eq_bind, Option.bind_some]
  rw [htext "user_id" u.userId (by simp [fields]), Option.bind_some,
    htext "username" u.username (by simp [fields]), Option.bind_some,
    htext "primary_email" u.primaryEmail (by simp [fields]), Option.bind_some,
    htext "sub" u.sub (by simp [fields]), Option.bind_some,
    Record.optional_of_written (hlookup "user_metadata" _ (by simp [fields])) hmetadata,
    Option.bind_some]
  rfl

/-! ### Reading in general -/

/-- **No token is read.** -/
theorem token_of_ofDocument? (h : ofDocument? budget d = some u) : u.token = none := by
  simp only [ofDocument?, Option.bind_eq_bind, Option.bind_eq_some_iff] at h
  obtain ⟨r, -, userId, -, username, -, primaryEmail, -, sub, -, metadata, -, h⟩ := h
  obtain rfl := Option.some.inj h
  rfl

/-- **A token in an object is skipped**, whatever it is. -/
theorem ofDocument?_token (before after : List (String × Document)) (d : Document) :
    ofDocument? budget (ofFields (before ++ ("token", d) :: after)) =
      ofDocument? budget (ofFields (before ++ after)) :=
  congrArg (· >>= _) (Record.ofDocument?_skip (by decide) before after d)

/-- **A list has no place for a token**: its items are the other fields. -/
theorem ofDocument?_items {items : List Document} (h : items.length ≤ fieldNames.length) :
    ofDocument? budget (.list items) = ofDocument? budget (ofFields (fieldNames.zip items)) :=
  congrArg (· >>= _) (Record.ofDocument?_list nodup_fieldNames h)

end AccountDirectory.User
