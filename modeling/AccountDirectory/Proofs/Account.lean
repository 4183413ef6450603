import AccountDirectory.Account
import AccountDirectory.Proofs.Gateway.Metadata
import AccountDirectory.Proofs.Json.Fields

/-!
# Accounts that are written and read

An account that was read from a text is written as an object that is read as the same account again
(`Account.reencoded`). The text may have been anything that is an account: an object or a list of
fields, with other members among them and with `null` for what is absent.

**What is lost on the way.** The form of the text, the members that no account has, and the
repetitions in free-form objects; none of them is part of the account. What is absent is not written
at all.

**What has to fit.** An account that was read is not just any account. Its free-form values are
canonical and no deeper than the reader allowed at their place, and an id that is not a text is
neither a text in disguise nor `null` (`Account.Fits`). So the same reader reads them again
(`Account.ofDocument?_toJson`).
-/

namespace AccountDirectory

open Json (Document Value present)

/-! ### Ids -/

namespace IdentityId

/-- **The id fits a budget**: a text always does, and another value is one that a reader with this
budget gives. -/
inductive Fits (budget : Nat) : IdentityId → Prop
  | text (s : String) : Fits budget (.text s)
  | other {v : Value} (hcanonical : v.isCanonical) (hdepth : v.toDocument.depth ≤ budget)
    (hnull : v ≠ .null) (htext : ∀ s, v ≠ .text s) : Fits budget (.other v)

variable {budget : Nat} {id : IdentityId}

theorem fits_of_ofDocument? {d : Document} (hd : d ≠ .null) (h : ofDocument? budget d = some id) :
    id.Fits budget := by
  obtain ⟨v, hv, rfl⟩ := Option.map_eq_some_iff.1 h
  have hcanonical := Value.isCanonical_of_ofDocument? hv
  have hdepth := Value.depth_toDocument_le hv
  have hnull : v ≠ .null := by
    rintro rfl
    exact hd (Value.eq_null_of_ofDocument? hv)
  cases v with
  | text s => exact .text s
  | _ => exact .other hcanonical hdepth hnull nofun

theorem Fits.ne_null (h : id.Fits budget) : id.toJson ≠ .null := by
  cases h with
  | text s => exact nofun
  | other _ _ hnull _ => exact hnull

/-- **An id that fits is read back** as what it was, a text or another value. -/
theorem Fits.ofDocument?_toJson (h : id.Fits budget) (hk : id.toJson.keepsDoubles) :
    ofDocument? budget id.toJson.toDocument = some id := by
  cases h with
  | text s => rfl
  | @other v hcanonical hdepth hnull htext =>
    rw [toJson, ofDocument?, Value.ofDocument?_toDocument hcanonical hk hdepth, Option.map_some]
    cases v with
    | text s => exact absurd rfl (htext s)
    | _ => rfl

end IdentityId

/-! ### Identities -/

namespace Identity

/-- The fields of the written form, in their order. -/
def fields (i : Identity) : List (String × Option Value) :=
  [("connection", some (.text i.connection)), ("provider", i.provider.map .text),
    ("user_id", i.userId.map IdentityId.toJson), ("isSocial", i.isSocial.map .bool)]

theorem toJson_eq (i : Identity) : i.toJson = .object (present i.fields) := by
  simp only [toJson, fields, Json.present_cons, Json.present_nil, Option.map_map,
    List.append_assoc, List.append_nil]
  rfl

theorem names_fields (i : Identity) : i.fields.map Prod.fst = fieldNames := rfl

theorem nodup_fieldNames : fieldNames.Nodup := by decide

/-- **The identity fits a budget**: so does its id, one container further down. -/
structure Fits (budget : Nat) (i : Identity) : Prop where
  budget_ne : budget ≠ 0
  id : ∀ id ∈ i.userId, id.Fits (budget - 1)

variable {budget : Nat} {i : Identity}

theorem fits_of_ofDocument? {d : Document} (h : ofDocument? budget d = some i) : i.Fits budget := by
  simp only [ofDocument?, Option.bind_eq_bind, Option.bind_eq_some_iff] at h
  obtain ⟨r, hr, connection, -, provider, -, userId, hid, isSocial, -, h⟩ := h
  obtain rfl := Option.some.inj h
  obtain ⟨hne, hbudget⟩ := Json.Record.budget_of_ofDocument? hr
  refine ⟨hne, fun id hmem ↦ ?_⟩
  obtain ⟨d, hd, hread⟩ := Json.Record.exists_of_optional hid id hmem
  exact hbudget ▸ IdentityId.fits_of_ofDocument? hd hread

/-- **An identity that fits is read back.** -/
theorem Fits.ofDocument?_toJson (h : i.Fits budget) (hk : i.toJson.keepsDoubles) :
    ofDocument? budget i.toJson.toDocument = some i := by
  rw [toJson_eq] at hk ⊢
  have hlookup : ∀ name v, (name, v) ∈ i.fields →
      (Json.Record.written i.fields (budget - 1)).fields.lookup name = v.map Value.toDocument :=
    fun _ _ hm ↦ Json.Record.lookup_written nodup_fieldNames hm
  have hid : ∀ id ∈ i.userId, id.toJson ≠ .null ∧
      IdentityId.ofDocument? (budget - 1) id.toJson.toDocument = some id := by
    intro id hmem
    have hkeeps : id.toJson.keepsDoubles :=
      Json.keepsDoubles_of_mem "user_id" hk (by simp [fields, Option.mem_def.1 hmem])
    exact ⟨(h.id id hmem).ne_null, (h.id id hmem).ofDocument?_toJson hkeeps⟩
  rw [ofDocument?, Json.Record.ofDocument?_present (names_fields _) nodup_fieldNames h.budget_ne]
  simp only [Option.bind_eq_bind, Option.bind_some]
  rw [Json.Record.defaulted_of_written
      (hlookup "connection" (some (.text i.connection)) (by simp [fields])) rfl, Option.bind_some,
    Json.Record.optional_of_written (hlookup "provider" (i.provider.map .text) (by simp [fields]))
      fun _ _ ↦ ⟨nofun, rfl⟩, Option.bind_some,
    Json.Record.optional_of_written (hlookup "user_id" _ (by simp [fields])) hid, Option.bind_some,
    Json.Record.optional_of_written (hlookup "isSocial" (i.isSocial.map .bool) (by simp [fields]))
      fun _ _ ↦ ⟨nofun, rfl⟩, Option.bind_some]

/-- **The document spells the identity**: each field stands under its own name if it has a value,
and is not there if it has none. -/
def Spells (i : Identity) (d : Document) : Prop :=
  ∀ name v, (name, v) ∈ i.fields → d.member? name = v.map Value.toDocument

theorem spells_toJson (i : Identity) : i.Spells i.toJson.toDocument := by
  intro name v hm
  rw [toJson_eq]
  exact Json.member?_present nodup_fieldNames hm

end Identity

/-! ### Accounts -/

namespace Account

/-- The fields of the written form, in their order. -/
def fields (a : Account) : List (String × Option Value) :=
  [("user_id", some (.text a.userId)), ("email", a.email.map .text),
    ("email_verified", a.emailVerified.map .bool), ("username", a.username.map .text),
    ("name", a.name.map .text), ("nickname", a.nickname.map .text),
    ("picture", a.picture.map .text),
    ("identities", some (.list (a.identities.map Identity.toJson))),
    ("user_metadata", a.metadata.map Metadata.toJson)]

theorem toJson_eq (a : Account) : a.toJson = .object (present a.fields) := by
  simp only [toJson, fields, Json.present_cons, Json.present_nil, Option.map_map,
    List.append_assoc, List.append_nil]
  rfl

theorem names_fields (a : Account) : a.fields.map Prod.fst = fieldNames := rfl

theorem nodup_fieldNames : fieldNames.Nodup := by decide

/-- **The account fits a budget**: so do its identities, which stand in a list, and its metadata. -/
structure Fits (budget : Nat) (a : Account) : Prop where
  budget_ne : budget ≠ 0
  identities : ∀ i ∈ a.identities, i.Fits (budget - 1 - 1)
  metadata : ∀ m ∈ a.metadata, m.toJson.toDocument.depth ≤ budget - 1

variable {budget : Nat} {a : Account}

/-- **An account that is read fits the budget** that it was read with. -/
theorem fits_of_ofDocument? {d : Document} (h : ofDocument? budget d = some a) : a.Fits budget := by
  simp only [ofDocument?, Option.bind_eq_bind, Option.bind_eq_some_iff] at h
  obtain ⟨r, hr, userId, -, email, -, emailVerified, -, username, -, name, -, nickname, -, picture,
    -, identities, hidentities, metadata, hmetadata, h⟩ := h
  obtain rfl := Option.some.inj h
  obtain ⟨hne, hbudget⟩ := Json.Record.budget_of_ofDocument? hr
  refine ⟨hne, fun i hi ↦ ?_, fun m hm ↦ ?_⟩
  · obtain hnil | ⟨d, hd⟩ := Json.Record.exists_of_defaulted hidentities
    · exact absurd (hnil ▸ hi) List.not_mem_nil
    · obtain ⟨d', hd'⟩ := Json.Reader.exists_of_list hd i hi
      exact hbudget ▸ Identity.fits_of_ofDocument? hd'
  · obtain ⟨d, -, hd⟩ := Json.Record.exists_of_optional hmetadata m hm
    exact hbudget ▸ Value.depth_toDocument_le (Metadata.ofDocument?_eq_some_iff.1 hd)

/-- **An account that fits is read back**, if the reader can go into the list of identities. -/
theorem Fits.ofDocument?_toJson (h : a.Fits budget) (hb : 1 < budget)
    (hk : a.toJson.keepsDoubles) : ofDocument? budget a.toJson.toDocument = some a := by
  rw [toJson_eq] at hk ⊢
  have hlookup : ∀ name v, (name, v) ∈ a.fields →
      (Json.Record.written a.fields (budget - 1)).fields.lookup name = v.map Value.toDocument :=
    fun _ _ hm ↦ Json.Record.lookup_written nodup_fieldNames hm
  have htext : ∀ name x, (name, x.map Value.text) ∈ a.fields →
      (Json.Record.written a.fields (budget - 1)).optional name .text = some x :=
    fun _ _ hm ↦ Json.Record.optional_of_written (hlookup _ _ hm) fun _ _ ↦ ⟨nofun, rfl⟩
  have hidentities : Json.Reader.list Identity.ofDocument? (budget - 1)
      (Value.list (a.identities.map Identity.toJson)).toDocument = some a.identities := by
    have hkeeps : (Value.list (a.identities.map Identity.toJson)).keepsDoubles :=
      Json.keepsDoubles_of_mem "identities" hk (by simp [fields])
    refine Json.Reader.list_of_written (Nat.sub_ne_zero_of_lt hb) fun i hi ↦ ?_
    exact (h.identities i hi).ofDocument?_toJson
      (Value.itemsKeepDoubles_iff.1 hkeeps _ (List.mem_map_of_mem hi))
  have hmetadata : ∀ m ∈ a.metadata, m.toJson ≠ .null ∧
      Metadata.ofDocument? (budget - 1) m.toJson.toDocument = some m := by
    intro m hm
    have hkeeps : m.toJson.keepsDoubles :=
      Json.keepsDoubles_of_mem "user_metadata" hk (by simp [fields, Option.mem_def.1 hm])
    exact ⟨nofun, Metadata.ofDocument?_eq_some_iff.2
      (Value.ofDocument?_toDocument m.canonical hkeeps (h.metadata m hm))⟩
  rw [ofDocument?, Json.Record.ofDocument?_present (names_fields _) nodup_fieldNames h.budget_ne]
  simp only [Option.bind_eq_bind, Option.bind_some]
  rw [Json.Record.defaulted_of_written
      (hlookup "user_id" (some (.text a.userId)) (by simp [fields])) rfl, Option.bind_some,
    htext "email" a.email (by simp [fields]), Option.bind_some,
    Json.Record.optional_of_written
      (hlookup "email_verified" (a.emailVerified.map .bool) (by simp [fields]))
      fun _ _ ↦ ⟨nofun, rfl⟩, Option.bind_some,
    htext "username" a.username (by simp [fields]), Option.bind_some,
    htext "name" a.name (by simp [fields]), Option.bind_some,
    htext "nickname" a.nickname (by simp [fields]), Option.bind_some,
    htext "picture" a.picture (by simp [fields]), Option.bind_some,
    Json.Record.defaulted_of_written (hlookup "identities" (some _) (by simp [fields])) hidentities,
    Option.bind_some,
    Json.Record.optional_of_written (hlookup "user_metadata" _ (by simp [fields])) hmetadata,
    Option.bind_some]

/-! ### The law -/

/-- **The text is a written form of the account.** -/
structure Survives (a : Account) (text : String) : Prop where
  /-- It is read as the same account. -/
  read : (Document.ofText? text).bind (ofDocument? Json.nestingLimit) = some a
  /-- Each field stands there under its own name if it has a value, and is not there if it has none;
  so do the fields of each identity, of which there are as many and in the same order. -/
  spelled : ∃ d items, Document.ofText? text = some d ∧
    (∀ name v, (name, v) ∈ a.fields → d.member? name = v.map Value.toDocument) ∧
    d.member? "identities" = some (.list items) ∧ List.Forall₂ Identity.Spells a.identities items

/-- The text of a document is a written form of the account that is read from it. -/
theorem survives_of_ofText? {text : String} (h : a.Fits Json.nestingLimit)
    (hk : a.toJson.keepsDoubles) (htext : Document.ofText? text = some a.toJson.toDocument) :
    a.Survives text := by
  have hmember : ∀ name v, (name, v) ∈ a.fields →
      a.toJson.toDocument.member? name = v.map Value.toDocument := by
    intro name v hm
    rw [toJson_eq]
    exact Json.member?_present nodup_fieldNames hm
  have hidentities : a.toJson.toDocument.member? "identities" =
      some (.list (Value.toItems (a.identities.map Identity.toJson))) :=
    hmember "identities" (some (.list (a.identities.map Identity.toJson))) (by simp [fields])
  refine ⟨?_, a.toJson.toDocument, _, htext, hmember, hidentities, ?_⟩
  · rw [htext]
    exact h.ofDocument?_toJson (by decide) hk
  · rw [Value.toItems_eq_map, List.forall₂_map_right_iff, List.forall₂_map_right_iff,
      List.forall₂_same]
    exact fun i _ ↦ i.spells_toJson

/-- **Accounts survive being written.** Whatever text an account was read from, its written form, in
either layout, is read as the same account. Doubles are asked to be kept by their written form. -/
theorem reencoded {s : String} {a : Account}
    (h : (Document.ofText? s).bind (ofDocument? Json.nestingLimit) = some a)
    (hk : a.toJson.keepsDoubles) : a.Survives a.toJson.compact ∧ a.Survives a.toJson.pretty := by
  obtain ⟨d, -, hread⟩ := Option.bind_eq_some_iff.1 h
  have hfits := fits_of_ofDocument? hread
  have hpretty : Document.ofText? (a.toJson.pretty ++ "") = some a.toJson.toDocument :=
    Value.ofText?_pretty hk rfl
  rw [String.append_empty] at hpretty
  exact ⟨survives_of_ofText? hfits hk (Value.ofText?_compact hk),
    survives_of_ofText? hfits hk hpretty⟩

/-- An account with whatever it may be written with: a member that no account has, a `null`, an
identity as a list, an id that is an object with a repeated key, and doubles. -/
def oddText : String :=
  "\x7b\"user_id\":\"auth0|65a1\",\"email\":null,\"logins\":[1],\"identities\":" ++
  "[[\"google-oauth2\",null,\x7b\"b\":1.5,\"a\":1,\"a\":-2\x7d,true]," ++
  "\x7b\"connection\":\"Username-Password-Authentication\",\"user_id\":\"alice\"\x7d]," ++
  "\"user_metadata\":\x7b\"k\":[1e21,0.1]\x7d\x7d"

/-- So it is with that one. -/
theorem reencoded_oddText :
    ∃ a, (Document.ofText? oddText).bind (ofDocument? Json.nestingLimit) = some a ∧
      a.identities.map Identity.textId? = [none, some "alice"] ∧ a.toJson.keepsDoubles ∧
      a.Survives a.toJson.compact ∧ a.Survives a.toJson.pretty := by
  have hread : ((Document.ofText? oddText).bind (ofDocument? Json.nestingLimit)).map
      (fun a ↦ (a.identities.map Identity.textId?, a.toJson.keepsDoubles)) =
        some ([none, some "alice"], true) := by decide +kernel
  obtain ⟨a, ha, hfacts⟩ := Option.map_eq_some_iff.1 hread
  obtain ⟨hids, hkeeps⟩ := Prod.mk.inj hfacts
  exact ⟨a, ha, hids, hkeeps, reencoded ha hkeeps⟩

end Account

end AccountDirectory
