import AccountDirectory.Proofs.Json.Record
import AccountDirectory.Token.Payload

/-!
# What the two readings of a payload have in common

A payload is read for its owner and for its validity, and a verifier needs both. `Attests` says what
a payload then holds, in terms of its members; `attests_iff` compares that with the two readings.

**Lists.** A record may be spelled as a list of its fields. The two readings declare their fields in
different orders, so a list cannot serve both: with the issuer as fourth field of one, it has a field
too many for the other (`issuers_of_list`). A payload that is accepted is an object.
-/

namespace AccountDirectory.Token

open Json

/-! ### The readings of single claims -/

theorem names?_eq_some_iff {budget : Nat} (hb : budget ≠ 0) {d : Document} {names : List String} :
    names? budget d = some names ↔ d.Spells names := by
  constructor
  · intro h
    cases d with
    | text content =>
      obtain ⟨name, rfl, rfl⟩ := Option.map_eq_some_iff.1 h
      exact .one name
    | list items =>
      obtain rfl := Document.list.inj ((Reader.list_text_eq_some_iff hb).1 h)
      exact .many names
    | _ => cases h
  · rintro (name | names)
    · rfl
    · exact (Reader.list_text_eq_some_iff hb).2 rfl

/-! ### Objects and lists -/

/-- The subject of the owner is the member of that name, if it is there. -/
theorem OwnerClaims.subject_of_object {budget : Nat} {members : List (Option String × Document)}
    {owner : OwnerClaims} (h : OwnerClaims.ofDocument? budget (.object members) = some owner)
    {d : Document} (hd : (Document.object members).member? "sub" = some d) :
    d = .ofName owner.subject := by
  rw [OwnerClaims.ofDocument?] at h
  obtain ⟨r, hr, h⟩ := Option.bind_eq_some_iff.1 h
  obtain ⟨subject, hs, h⟩ := Option.bind_eq_some_iff.1 h
  obtain ⟨scope, -, h⟩ := Option.bind_eq_some_iff.1 h
  obtain ⟨permissions, -, h⟩ := Option.bind_eq_some_iff.1 h
  obtain rfl := Option.some.inj h
  have hl := (Record.lookup_ofDocument? hr).2 "sub" (by decide)
  rw [Record.defaulted, hl, hd] at hs
  exact Reader.text_eq_some_iff.1 hs

/-- The claims about validity are members of the object. -/
theorem ValidityClaims.eq_of_object {budget : Nat} {members : List (Option String × Document)}
    {validity : ValidityClaims}
    (h : ValidityClaims.ofDocument? budget (.object members) = some validity) :
    let find := (Document.object members).member?
    validity =
      { expiry := (find "exp").bind time?
        subject := (find "sub").bind (Reader.text (budget - 1))
        issuers := (find "iss").bind (names? (budget - 1))
        audiences := (find "aud").bind (names? (budget - 1)) } := by
  rw [ValidityClaims.ofDocument?] at h
  obtain ⟨r, hr, h⟩ := Option.bind_eq_some_iff.1 h
  obtain rfl := Option.some.inj h
  obtain ⟨hb, hl⟩ := Record.lookup_ofDocument? hr
  simp only [Record.required, hb, hl "exp" (by decide), hl "sub" (by decide), hl "iss" (by decide),
    hl "aud" (by decide)]

/-- No list has an issuer and can be read for its owner. -/
theorem issuers_of_list {budget : Nat} {items : List Document} {owner : OwnerClaims}
    {validity : ValidityClaims} (ho : OwnerClaims.ofDocument? budget (.list items) = some owner)
    (hv : ValidityClaims.ofDocument? budget (.list items) = some validity) :
    validity.issuers = none := by
  have hlen : items.length ≤ 3 := by
    rw [OwnerClaims.ofDocument?] at ho
    obtain ⟨r, hr, -⟩ := Option.bind_eq_some_iff.1 ho
    rw [Record.ofDocument?] at hr
    split at hr
    · cases hr
    · next hn => exact Nat.not_lt.1 fun hlt ↦ hn (.inr hlt)
  rw [ValidityClaims.ofDocument?] at hv
  obtain ⟨r, hr, hv⟩ := Option.bind_eq_some_iff.1 hv
  obtain rfl := Option.some.inj hv
  rw [Record.ofDocument?] at hr
  split at hr
  · cases hr
  obtain rfl := Option.some.inj hr
  -- the fields of a list of at most three items stop short of the issuer
  rcases items with - | ⟨a, - | ⟨b, - | ⟨c, - | ⟨d, rest⟩⟩⟩⟩
  · rfl
  · rfl
  · rfl
  · rfl
  · simp only [List.length_cons] at hlen
    omega

/-! ### What an accepted payload holds -/

/-- **The payload attests** an owner, an expiry and issuers. -/
structure Attests (d : Document) (owner : OwnerClaims) (expiry : Nat) (issuers : List String) :
    Prop where
  /-- It can be read for its owner, -/
  ofOwner : OwnerClaims.ofDocument? nestingLimit d = some owner
  /-- and for its validity: none of the claims about that stands twice. -/
  ofValidity : (ValidityClaims.ofDocument? nestingLimit d).isSome
  /-- It has a time of expiry. -/
  exp : ∃ x, d.member? "exp" = some x ∧ time? x = some expiry
  /-- Its subject is the owner's. -/
  sub : d.member? "sub" = some (.ofName owner.subject)
  /-- It names its issuers. -/
  iss : ∃ x, d.member? "iss" = some x ∧ x.Spells issuers

/-- **The two readings attest**, if the reading for validity finds the three claims. -/
theorem attests_iff {d : Document} {owner : OwnerClaims} {expiry : Nat} {issuers : List String} :
    Attests d owner expiry issuers ↔
      OwnerClaims.ofDocument? nestingLimit d = some owner ∧
        ∃ validity, ValidityClaims.ofDocument? nestingLimit d = some validity ∧
          validity.expiry = some expiry ∧ validity.subject.isSome ∧
          validity.issuers = some issuers := by
  have hb : nestingLimit - 1 ≠ 0 := by decide
  constructor
  · rintro ⟨ho, hv, ⟨x, hx, hexp⟩, hsub, ⟨y, hy, hiss⟩⟩
    obtain ⟨validity, hv⟩ := Option.isSome_iff_exists.1 hv
    refine ⟨ho, validity, hv, ?_⟩
    cases d with
    | object members =>
      rw [ValidityClaims.eq_of_object hv]
      dsimp only
      rw [hx, hsub, hy]
      exact ⟨hexp, rfl, (names?_eq_some_iff hb).2 hiss⟩
    | _ => cases hx
  · rintro ⟨ho, validity, hv, hexp, hsub, hiss⟩
    have hsome := Option.isSome_iff_exists.2 ⟨validity, hv⟩
    -- of the documents, only objects and lists are records at all
    cases d with
    | object members =>
      rw [ValidityClaims.eq_of_object hv] at hexp hsub hiss
      obtain ⟨subject, hsub⟩ := Option.isSome_iff_exists.1 hsub
      obtain ⟨x, hx, hexp⟩ := Option.bind_eq_some_iff.1 hexp
      obtain ⟨y, hy, -⟩ := Option.bind_eq_some_iff.1 hsub
      obtain ⟨z, hz, hiss⟩ := Option.bind_eq_some_iff.1 hiss
      obtain rfl := OwnerClaims.subject_of_object ho hy
      exact ⟨ho, hsome, ⟨x, hx, hexp⟩, hy, ⟨z, hz, (names?_eq_some_iff hb).1 hiss⟩⟩
    | list items =>
      rw [issuers_of_list ho hv] at hiss
      cases hiss
    | _ => cases hv

/-- The audiences of a payload that attests are the names in its member `aud`; there are none if it
has no such member, or one of another shape. -/
theorem Attests.audiences_eq_some_iff {d : Document} {owner : OwnerClaims} {expiry : Nat}
    {issuers : List String} (h : Attests d owner expiry issuers) {validity : ValidityClaims}
    (hv : ValidityClaims.ofDocument? nestingLimit d = some validity) {audiences : List String} :
    validity.audiences = some audiences ↔
      ∃ x, d.member? "aud" = some x ∧ x.Spells audiences := by
  have hb : nestingLimit - 1 ≠ 0 := by decide
  cases d with
  | object members =>
    rw [ValidityClaims.eq_of_object hv]
    dsimp only
    rw [Option.bind_eq_some_iff]
    simp only [names?_eq_some_iff hb]
  | _ => cases h.sub

end AccountDirectory.Token
