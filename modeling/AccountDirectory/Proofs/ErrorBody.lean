import AccountDirectory.ErrorBody
import AccountDirectory.Proofs.Json.Fields
import AccountDirectory.Proofs.Text.Blank

/-!
# What a refusal tells

The body of a refusal tells why, under one of three names. What is said of the refusal is the text
under the first of them that has one (`KeepsText`), so a more specific text is never lost to a less
specific one, and no text is lost to the reason phrase.

**All or nothing.** This holds of a body whose members are those of the record
(`explain_keepsText`): each declared member is absent, `null` or of its type. One declared member of
another type makes the body no record, and then none of its texts is told, also where that member is
one that nobody asks for (`not_every_text_kept`). Members under other names are never in the way.
-/

namespace AccountDirectory.ErrorBody

open Json (Document Reader Record)
open Json.Document (ofFields)

/-! ### The law of the text -/

/-- The names of the texts, the most specific one first. -/
def precedence : List String := ["message", "error_description", "error"]

variable {fields : List (String × Document)} {status : Nat} {said : String}

/-- **The members tell a text** under a name: it is there, and it is not blank. -/
def Tells (fields : List (String × Document)) (name text : String) : Prop :=
  fields.lookup name = some (.ofName text) ∧ ¬Text.isBlankText text

/-- **The text is kept**: what is said is the most specific text that the members tell, trimmed. Only
if they tell none, it is what there is to say of the status. -/
structure KeepsText (fields : List (String × Document)) (status : Nat) (said : String) : Prop where
  told : ∀ before name after text, precedence = before ++ name :: after →
    (∀ earlier ∈ before, ∀ t, ¬Tells fields earlier t) → Tells fields name text →
      said = Text.trim text
  untold : (∀ name ∈ precedence, ∀ t, ¬Tells fields name t) → said = fallback status

/-- A number that may be a status: an integer of sixteen bits. -/
def IsCode (d : Document) : Prop :=
  ∃ lit n bounds, d = .number lit ∧ Json.Number.ofLiteral? lit = some (.integer n bounds) ∧
    0 ≤ n ∧ n < 0x10000

/-- **The members are those of the record**: each declared one is absent, `null` or of its type. -/
structure IsRecord (fields : List (String × Document)) : Prop where
  status : ∀ d, fields.lookup "statusCode" = some d → d = .null ∨ IsCode d
  texts : ∀ name ∈ ["error", "message", "errorCode", "error_description"],
    ∀ d, fields.lookup name = some d → d = .null ∨ ∃ text, d = .ofName text

/-- **The body has these members**: it is an object, with distinct names, or a list that stands for
one. -/
inductive HasMembers (body : String) : List (String × Document) → Prop
  | object {members} (h : Document.ofText? body = some (ofFields members))
    (hnames : (members.map Prod.fst).Nodup) : HasMembers body members
  | list {items} (h : Document.ofText? body = some (.list items))
    (hlength : items.length ≤ fieldNames.length) : HasMembers body (fieldNames.zip items)

/-! ### The most specific text -/

/-- The text of the record that counts, trimmed. -/
def telling (text? : Option String) : Option String := (text?.map Text.trim).filter (!·.isEmpty)

theorem telling_eq_some_iff {name m : String} :
    telling ((fields.lookup name).bind Document.text?) = some m ↔
      ∃ text, Tells fields name text ∧ m = Text.trim text := by
  rw [telling, Option.filter_eq_some_iff]
  constructor
  · rintro ⟨htrim, hne⟩
    obtain ⟨text, htext, rfl⟩ := Option.map_eq_some_iff.1 htrim
    obtain ⟨d, hd, hread⟩ := Option.bind_eq_some_iff.1 htext
    obtain rfl := Reader.text_eq_some_iff.1 ((Reader.text_eq_text? 0 d).trans hread)
    refine ⟨text, ⟨hd, fun hblank ↦ ?_⟩, rfl⟩
    rw [Text.trim_eq_empty_iff.2 hblank] at hne
    cases hne
  · rintro ⟨text, ⟨hd, hblank⟩, rfl⟩
    refine ⟨?_, ?_⟩
    · rw [hd]
      rfl
    · have hne : Text.trim text ≠ "" := fun h ↦ hblank (Text.trim_eq_empty_iff.1 h)
      simpa using hne

/-- **The first text that is told is kept.** -/
theorem keepsText_findSome? (fields : List (String × Document)) (status : Nat) :
    KeepsText fields status ((precedence.findSome? fun name ↦
      telling ((fields.lookup name).bind Document.text?)).getD (fallback status)) := by
  have hsilent : ∀ name, (∀ t, ¬Tells fields name t) →
      telling ((fields.lookup name).bind Document.text?) = none := by
    intro name hname
    refine Option.eq_none_iff_forall_ne_some.2 fun m hm ↦ ?_
    obtain ⟨text, htells, -⟩ := telling_eq_some_iff.1 hm
    exact hname text htells
  refine ⟨fun before name after text hsplit hbefore htells ↦ ?_, fun huntold ↦ ?_⟩
  · have hearlier : before.findSome? (fun name ↦
        telling ((fields.lookup name).bind Document.text?)) = none :=
      List.findSome?_eq_none_iff.2 fun n hn ↦ hsilent n (hbefore n hn)
    have hhere := telling_eq_some_iff.2 ⟨text, htells, rfl⟩
    rw [hsplit, List.findSome?_append, hearlier, Option.none_or, List.findSome?_cons, hhere]
    rfl
  · rw [List.findSome?_eq_none_iff.2 fun n hn ↦ hsilent n (huntold n hn)]
    rfl

/-! ### Reading the record -/

variable {budget : Nat} {d : Document} {r : Record}

theorem exists_natural_iff :
    (∃ n, Reader.natural 0x10000 budget d = some n) ↔ IsCode d := by
  cases d with
  | number lit =>
    constructor
    · rintro ⟨n, hn⟩
      rw [Reader.natural] at hn
      split at hn
      · next k bounds hlit =>
        split at hn
        · next hk => exact ⟨lit, k, bounds, rfl, hlit, hk⟩
        · cases hn
      · cases hn
    · rintro ⟨lit', k, bounds, heq, hlit, hk⟩
      obtain rfl := Document.number.inj heq
      refine ⟨k.toNat, ?_⟩
      rw [Reader.natural, hlit]
      exact if_pos hk
  | null | bool | text | list | object =>
    refine ⟨?_, ?_⟩
    · rintro ⟨n, hn⟩
      cases hn
    · rintro ⟨lit, k, bounds, heq, -⟩
      cases heq

/-- The record is read field by field. -/
theorem ofDocument?_eq_some_iff (hr : Record.ofDocument? fieldNames budget d = some r)
    {e : ErrorBody} :
    ofDocument? budget d = some e ↔
      r.optional "statusCode" (.natural 0x10000) = some e.status ∧
        r.optional "error" .text = some e.error ∧ r.optional "message" .text = some e.message ∧
        r.optional "errorCode" .text = some e.code ∧
        r.optional "error_description" .text = some e.description := by
  simp only [ofDocument?, Option.bind_eq_bind, hr, Option.bind_some, Option.bind_eq_some_iff,
    Option.some.injEq]
  constructor
  · rintro ⟨status, hstatus, error, herror, message, hmessage, code, hcode, description,
      hdescription, rfl⟩
    exact ⟨hstatus, herror, hmessage, hcode, hdescription⟩
  · rintro ⟨hstatus, herror, hmessage, hcode, hdescription⟩
    exact ⟨_, hstatus, _, herror, _, hmessage, _, hcode, _, hdescription, rfl⟩

variable (hr : Record.ofDocument? fieldNames budget d = some r)
  (hfields : ∀ name ∈ fieldNames, r.fields.lookup name = fields.lookup name)

include hr hfields

/-- **The record is read** if and only if the members are those of the record. -/
theorem exists_ofDocument?_iff : (∃ e, ofDocument? budget d = some e) ↔ IsRecord fields := by
  have hstatus : (∃ x, r.optional "statusCode" (.natural 0x10000) = some x) ↔
      ∀ d, fields.lookup "statusCode" = some d → d = .null ∨ IsCode d := by
    rw [← hfields _ (by decide), Record.exists_optional_iff]
    simp only [exists_natural_iff]
  have htext : ∀ name ∈ fieldNames, (∃ x, r.optional name .text = some x) ↔
      ∀ d, fields.lookup name = some d → d = .null ∨ ∃ text, d = .ofName text := by
    intro name hname
    rw [← hfields name hname, Record.exists_optional_iff]
    simp only [Reader.text_eq_some_iff]
  constructor
  · rintro ⟨e, he⟩
    obtain ⟨hs, herror, hmessage, hcode, hdescription⟩ := (ofDocument?_eq_some_iff hr).1 he
    refine ⟨hstatus.1 ⟨_, hs⟩, ?_⟩
    simp only [List.forall_mem_cons]
    exact ⟨(htext _ (by decide)).1 ⟨_, herror⟩, (htext _ (by decide)).1 ⟨_, hmessage⟩,
      (htext _ (by decide)).1 ⟨_, hcode⟩, (htext _ (by decide)).1 ⟨_, hdescription⟩, nofun⟩
  · rintro ⟨hs, htexts⟩
    obtain ⟨status, hs⟩ := hstatus.2 hs
    obtain ⟨error, herror⟩ := (htext _ (by decide)).2 (htexts "error" (by decide))
    obtain ⟨message, hmessage⟩ := (htext _ (by decide)).2 (htexts "message" (by decide))
    obtain ⟨code, hcode⟩ := (htext _ (by decide)).2 (htexts "errorCode" (by decide))
    obtain ⟨description, hdescription⟩ :=
      (htext _ (by decide)).2 (htexts "error_description" (by decide))
    exact ⟨{ status, error, message, code, description },
      (ofDocument?_eq_some_iff hr).2 ⟨hs, herror, hmessage, hcode, hdescription⟩⟩

/-- **The texts of the record** are what stands under their names. -/
theorem bestMessage_of_ofDocument? {e : ErrorBody} (he : ofDocument? budget d = some e) :
    e.bestMessage = precedence.findSome? fun name ↦
      telling ((fields.lookup name).bind Document.text?) := by
  obtain ⟨-, herror, hmessage, -, hdescription⟩ := (ofDocument?_eq_some_iff hr).1 he
  have hmessage := Record.eq_of_optional_text hmessage
  have hdescription := Record.eq_of_optional_text hdescription
  have herror := Record.eq_of_optional_text herror
  rw [hfields _ (by decide)] at hmessage hdescription herror
  rw [bestMessage, hmessage, hdescription, herror]
  rfl

/-- So the texts are kept by what is said, unless the members are not those of the record. -/
theorem keepsText_of_record (status : Nat) :
    (IsRecord fields → KeepsText fields status
      (((ofDocument? budget d).bind bestMessage).getD (fallback status))) ∧
    (¬IsRecord fields → ((ofDocument? budget d).bind bestMessage).getD (fallback status) =
      fallback status) := by
  refine ⟨fun hrecord ↦ ?_, fun hrecord ↦ ?_⟩
  · obtain ⟨e, he⟩ := (exists_ofDocument?_iff hr hfields).2 hrecord
    rw [he, Option.bind_some, bestMessage_of_ofDocument? hr hfields he]
    exact keepsText_findSome? fields status
  · have hnone : ofDocument? budget d = none := by
      rw [Option.eq_none_iff_forall_ne_some]
      exact fun e he ↦ hrecord ((exists_ofDocument?_iff hr hfields).1 ⟨e, he⟩)
    rw [hnone]
    rfl

omit hr hfields

/-! ### What is said of a refusal -/

theorem explain_of_ofText? {body : String} (h : Document.ofText? body = some d) (status : Nat) :
    explain status body =
      ((ofDocument? Json.nestingLimit d).bind bestMessage).getD (fallback status) := by
  rw [explain, ofText?, h, Option.bind_some]

/-- **A text of the directory is kept by what is said of its refusal**, if the members of the body are
those of the record. Of a body with other members, and of a body that is neither an object nor such a
list, nothing is said but what there is to say of its status. -/
theorem explain_keepsText (status : Nat) (body : String) :
    (∀ fields, HasMembers body fields →
      (IsRecord fields → KeepsText fields status (explain status body)) ∧
      (¬IsRecord fields → explain status body = fallback status)) ∧
    ((∀ d, Document.ofText? body = some d → ¬Record.IsSpelled fieldNames d) →
      explain status body = fallback status) := by
  refine ⟨fun fields hbody ↦ ?_, fun hbody ↦ ?_⟩
  · cases hbody with
    | object h hnames =>
      rw [explain_of_ofText? h]
      exact keepsText_of_record (Record.ofDocument?_of_nodup fieldNames (by decide) hnames)
        (fun name hname ↦ Record.lookup_filter hname fields) status
    | list h hlength =>
      rw [explain_of_ofText? h]
      exact keepsText_of_record (Record.ofDocument?_items (by decide) hlength) (fun _ _ ↦ rfl) status
  · rw [explain, ofText?]
    cases h : Document.ofText? body with
    | none => rfl
    | some d =>
      have hnone : ofDocument? Json.nestingLimit d = none := by
        rw [Option.eq_none_iff_forall_ne_some]
        intro e he
        obtain ⟨r, hr, -⟩ := Option.bind_eq_some_iff.1 he
        exact hbody d h (Record.isSpelled_of_ofDocument? hr)
      rw [Option.bind_some, hnone]
      rfl

/-! ### A status that is a number, and one that is a text -/

/-- A user does not exist. A member that no record has comes with it. -/
def missing : Json.Value :=
  .object [("statusCode", .number (.integer 404 (by decide))), ("error", .text "Not Found"),
    ("message", .text " The user does not exist. "), ("hint", .list [.null])]

/-- Its members, as they are read. -/
def missingMembers : List (String × Document) :=
  [("statusCode", .number (Json.Number.integer 404 (by decide)).literal),
    ("error", .ofName "Not Found"), ("message", .ofName " The user does not exist. "),
    ("hint", .list [.null])]

theorem isRecord_missing : IsRecord missingMembers := by
  refine ⟨fun d hd ↦ .inr ?_, ?_⟩
  · obtain rfl := Option.some.inj hd
    exact ⟨_, 404, by decide, rfl, (Json.Number.isKept_integer _ _).ofLiteral?_eq, by decide⟩
  · simp only [List.forall_mem_cons]
    exact ⟨fun d hd ↦ .inr ⟨_, (Option.some.inj hd).symm⟩,
      fun d hd ↦ .inr ⟨_, (Option.some.inj hd).symm⟩, nofun, nofun, nofun⟩

/-- The same, with the status as a text. -/
def mistyped : Json.Value :=
  .object [("statusCode", .text "404"), ("message", .text "The user does not exist.")]

/-- So it is told that the user does not exist. -/
theorem explain_missing :
    missing.compact = "\x7b\"statusCode\":404,\"error\":\"Not Found\"," ++
        "\"message\":\" The user does not exist. \",\"hint\":[null]\x7d" ∧
      explain 404 missing.compact = "The user does not exist." := by
  refine ⟨by decide +kernel, ?_⟩
  have hbody : HasMembers missing.compact missingMembers :=
    .object (Json.Value.ofText?_compact rfl) (by decide +kernel)
  have hkeeps := ((explain_keepsText 404 missing.compact).1 missingMembers hbody).1 isRecord_missing
  exact hkeeps.told [] "message" _ " The user does not exist. " rfl nofun ⟨rfl, by decide⟩

/-- **Not every text is kept**: the second body tells the same, and it is not said. -/
theorem not_every_text_kept :
    ¬∀ (status : Nat) (body : String) (fields : List (String × Document)),
      100 ≤ status → status ≤ 999 → Document.ofText? body = some (ofFields fields) →
        (fields.map Prod.fst).Nodup → KeepsText fields status (explain status body) := by
  intro hkept
  have hbody : Document.ofText? mistyped.compact = some (ofFields
      [("statusCode", .ofName "404"), ("message", .ofName "The user does not exist.")]) :=
    Json.Value.ofText?_compact rfl
  have hsaid := (hkept 404 _ _ (by decide) (by decide) hbody (by decide)).told [] "message" _
    "The user does not exist." rfl nofun ⟨rfl, by decide⟩
  have hphrase : explain 404 mistyped.compact = "Not Found" := by decide +kernel
  rw [hphrase] at hsaid
  exact absurd hsaid (by decide +kernel)

end AccountDirectory.ErrorBody
