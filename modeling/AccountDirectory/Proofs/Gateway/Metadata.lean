import AccountDirectory.Gateway
import AccountDirectory.Proofs.Json.Fields

/-!
# Texts that hold metadata

Metadata crosses the wire three times as the member `user_metadata` of an object: in the body of a
change, in the answer to it, and in the output for the user that results. `HoldsMetadata` and
`LacksMetadata` say of a text what it holds, in terms of its document alone; the two writers and the
reader are measured by them.

* **A change spells its metadata**, and nothing else (`ofText?_patchBody`).
* **The answer is read as what it holds** (`decodeBody_of_holdsMetadata`), as long as the metadata is
  not nested too deep to be read at all, and whatever other members there are.

An absent member, a `null` and an empty object are told apart: the first two are no metadata, and the
last one is metadata without keys.
-/

namespace AccountDirectory

/-! ### Members of an object -/

namespace Json

open Document (ofFields under)

variable {name : String} {fields : List (String × Document)} {budget : Nat}

theorem Record.filter_eq_map_under (name : String) (fields : List (String × Document)) :
    (fields.filter fun (n, _) ↦ [name].contains n) = (under name fields).map (name, ·) := by
  induction fields with
  | nil => rfl
  | cons f rest ih =>
    obtain ⟨n, d⟩ := f
    by_cases hn : n = name
    · subst hn
      rw [List.filter_cons_of_pos (by simp), ih, under, under, List.filter_cons_of_pos (by simp),
        List.map_cons, List.map_cons]
    · rw [List.filter_cons_of_neg (by simpa using hn), ih, under, under,
        List.filter_cons_of_neg (by simpa using hn)]

/-- A record with one field has what stands under its name, if that is there at most once. -/
theorem Record.ofDocument?_ofFields (hb : budget ≠ 0) {found : Option Document}
    (h : under name fields = found.toList) :
    ofDocument? [name] budget (ofFields fields) =
      some ⟨found.toList.map (name, ·), budget - 1⟩ := by
  have hkept : kept [name] fields = found.toList.map (name, ·) := by
    rw [kept, filter_eq_map_under, h]
  have hdistinct : distinct ((found.toList.map (name, ·)).map Prod.fst) = true := by
    cases found <;> rfl
  rw [ofDocument?_ofFields_eq [name] hb, hkept, if_pos hdistinct]

end Json

open Json (Document)
open Json.Document (ofFields under)

/-- **Metadata is an object**, and any object is read as metadata. -/
theorem Metadata.ofDocument?_eq_some_iff {budget : Nat} {d : Document} {m : Metadata} :
    ofDocument? budget d = some m ↔ Json.Value.ofDocument? budget d = some m.toJson := by
  rw [ofDocument?]
  split
  · next members h =>
    constructor
    · intro hm
      obtain rfl := Option.some.inj hm
      exact h
    · intro hm
      obtain ⟨members', hcanonical⟩ := m
      obtain rfl := Json.Value.object.inj (Option.some.inj (h.symm.trans hm))
      rfl
  · next h =>
    constructor
    · nofun
    · exact fun hm ↦ absurd hm (h m.members)

/-! ### What a text holds -/

/-- **The text holds this metadata**: it spells an object with one member `user_metadata`, among any
others, and that is an object of this depth with this value. -/
def HoldsMetadata (text : String) (m : Metadata) (depth : Nat) : Prop :=
  ∃ fields d, Document.ofText? text = some (ofFields fields) ∧ under "user_metadata" fields = [d] ∧
    d.value? = some m.toJson ∧ d.depth = depth

/-- Metadata is read back from the document that is written for it. -/
theorem Metadata.value?_toDocument {m : Metadata} (h : m.toJson.keepsDoubles) :
    m.toJson.toDocument.value? = some m.toJson :=
  Json.Value.value?_toDocument m.canonical h

/-- **The text holds no metadata**: it is blank or `null`, or it spells an object in which the member
`user_metadata` is absent or `null`. -/
inductive LacksMetadata (text : String) : Prop
  | blank (h : Text.isBlankText text)
  | null (h : Document.ofText? text = some .null)
  | absent {fields} (h : Document.ofText? text = some (ofFields fields))
    (hm : under "user_metadata" fields = [])
  | nothing {fields} (h : Document.ofText? text = some (ofFields fields))
    (hm : under "user_metadata" fields = [.null])

namespace Gateway

/-! ### Writing a change -/

/-- **The body of a change spells its metadata**, as its only member. -/
theorem ofText?_patchBody {m : Metadata} (h : m.toJson.keepsDoubles) :
    Document.ofText? (patchBody m).compact =
      some (ofFields [("user_metadata", m.toJson.toDocument)]) := by
  have hkeeps : (patchBody m).keepsDoubles := Bool.and_eq_true_iff.2 ⟨h, rfl⟩
  rw [Json.Value.ofText?_compact hkeeps, patchBody, Json.Value.toDocument_object]
  rfl

/-! ### Reading the answer -/

variable {text : String} {m : Metadata} {depth : Nat}

theorem decodeBody_of_ofText? {α : Type} {read : Json.Reader α} {d : Document}
    (h : Document.ofText? text = some d) :
    decodeBody read text =
      (read.nullable Json.nestingLimit d).elim (.error (.decode unreadable)) .ok := by
  rw [decodeBody, if_neg (Document.not_isBlankText_of_ofText? h), h, Option.bind_some]
  cases read.nullable Json.nestingLimit d <;> rfl

/-- What is read from a body that says something is read from its document. -/
theorem exists_of_decodeBody {α : Type} {read : Json.Reader α} {x : α}
    (h : decodeBody read text = .ok (some x)) :
    ∃ d, Document.ofText? text = some d ∧ read Json.nestingLimit d = some x := by
  rw [decodeBody] at h
  split_ifs at h
  · cases h
  split at h
  · next found hfound =>
    obtain rfl := Except.ok.inj h
    obtain ⟨d, hd, hread⟩ := Option.bind_eq_some_iff.1 hfound
    exact ⟨d, hd, (Json.Record.nullable_eq_some_some_iff.1 hread).2⟩
  · cases h

/-- What is made of a body is made of what was read from it. -/
theorem exists_of_map_decodeBody {α β : Type} {read : Json.Reader α} {finish : Option α → β} {x : β}
    (h : finish <$> decodeBody read text = .ok x) :
    ∃ found, decodeBody read text = .ok found ∧ finish found = x := by
  cases hfound : decodeBody read text with
  | error failure =>
    rw [hfound] at h
    cases h
  | ok found =>
    rw [hfound] at h
    exact ⟨found, rfl, Except.ok.inj h⟩

/-- What is stored is read from under its name, with one container less to go. -/
theorem decodeBody_of_ofFields (found : Option Document) {fields : List (String × Document)}
    (h : Document.ofText? text = some (ofFields fields))
    (hm : under "user_metadata" fields = found.toList) :
    decodeBody storedMetadata text =
      (found.elim (some none) (Metadata.ofDocument?.nullable (Json.nestingLimit - 1))).elim
        (.error (.decode unreadable)) fun stored ↦ .ok (some stored) := by
  have hread : storedMetadata Json.nestingLimit (ofFields fields) =
      found.elim (some none) (Metadata.ofDocument?.nullable (Json.nestingLimit - 1)) := by
    rw [storedMetadata, Json.Record.ofDocument?_ofFields (by decide) hm]
    cases found <;> rfl
  have hnullable : storedMetadata.nullable Json.nestingLimit (ofFields fields) =
      (storedMetadata Json.nestingLimit (ofFields fields)).map some := rfl
  rw [decodeBody_of_ofText? h, hnullable, hread]
  cases found.elim (some none) (Metadata.ofDocument?.nullable (Json.nestingLimit - 1)) <;> rfl

/-- **An answer without metadata is read as none.** -/
theorem decodeBody_of_lacksMetadata (h : LacksMetadata text) :
    ∃ found, decodeBody storedMetadata text = .ok found ∧ found.join = none := by
  cases h with
  | blank h => exact ⟨none, if_pos h, rfl⟩
  | null h => exact ⟨none, decodeBody_of_ofText? h, rfl⟩
  | absent h hm => exact ⟨some none, decodeBody_of_ofFields none h hm, rfl⟩
  | nothing h hm => exact ⟨some none, decodeBody_of_ofFields (some .null) h hm, rfl⟩

/-- **An answer with metadata is read as this metadata**, unless it is nested too deep. -/
theorem decodeBody_of_holdsMetadata (h : HoldsMetadata text m depth) :
    decodeBody storedMetadata text =
      if depth < Json.nestingLimit then .ok (some (some m)) else .error (.decode unreadable) := by
  obtain ⟨fields, d, htext, hm, hvalue, rfl⟩ := h
  have hread : Metadata.ofDocument?.nullable (Json.nestingLimit - 1) d =
      (Metadata.ofDocument? (Json.nestingLimit - 1) d).map some := by
    cases d with
    | null => cases hvalue
    | _ => rfl
  rw [decodeBody_of_ofFields (some d) htext hm, Option.elim_some, hread]
  split
  · next hd =>
    have hfits : Metadata.ofDocument? (Json.nestingLimit - 1) d = some m :=
      Metadata.ofDocument?_eq_some_iff.2
        (Json.Value.ofDocument?_eq_some_iff.2 ⟨Nat.le_sub_one_of_lt hd, hvalue⟩)
    rw [hfits]
    rfl
  · next hd =>
    have hdeep : Metadata.ofDocument? (Json.nestingLimit - 1) d = none := by
      rw [Option.eq_none_iff_forall_ne_some]
      intro m' hm'
      have hvalue' := Json.Value.ofDocument?_eq_some_iff.1 (Metadata.ofDocument?_eq_some_iff.1 hm')
      exact hd (Nat.lt_of_le_pred (by decide) hvalue'.1)
    rw [hdeep]
    rfl

end Gateway

end AccountDirectory
