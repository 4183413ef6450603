import AccountDirectory.Proofs.Claims
import AccountDirectory.Proofs.Text.Base64Url
import AccountDirectory.Proofs.Token.Payload
import AccountDirectory.Proofs.Token.Segments
import AccountDirectory.Verifier

/-!
# The checks of a verification

One rule for each check of a token: when it passes, and with which result. A rule speaks of the
written forms and the documents that a check reads, so what is proved of a verification does not
depend on how a check is made.

The claims of an accepted token are determined by its owner (`eq_claimsOf_iff`).
-/

namespace AccountDirectory

open Text.Base64Url (encode)

/-! ### Claims about the owner -/

namespace Token

/-- The scopes that a claim names: the words of a text, or the list. -/
def ScopeClaim.entries : ScopeClaim → List String
  | .words text => (Text.words text.toList).map String.ofList
  | .list scopes => scopes

/-- The scopes that a token grants: its scope entries, then its permissions. -/
def OwnerClaims.grants (owner : OwnerClaims) : List String :=
  owner.scope.elim [] ScopeClaim.entries ++ owner.permissions

end Token

namespace Verifier

theorem claimsOf_eq (owner : Token.OwnerClaims) :
    claimsOf owner = ⟨owner.subject, Claims.firstMentions owner.grants⟩ := by
  rw [claimsOf, Token.OwnerClaims.grants]
  rcases owner.scope with - | - | - <;> rfl

theorem eq_claimsOf_iff {owner : Token.OwnerClaims} {claims : Claims} :
    claims = claimsOf owner ↔
      claims.subject = owner.subject ∧ Claims.IsFirstMentions owner.grants claims.scopes := by
  obtain ⟨subject, scopes⟩ := claims
  rw [claimsOf_eq, Claims.mk.injEq, Claims.isFirstMentions_iff]

/-- A scope is granted if it is mentioned. -/
theorem hasScope_claimsOf_iff {owner : Token.OwnerClaims} {scope : String} :
    (claimsOf owner).hasScope scope ↔ scope ∈ owner.grants := by
  rw [claimsOf_eq, Claims.hasScope, List.contains_iff_mem]
  exact Claims.mem_firstMentions_iff

/-! ### The checks, one by one -/

private theorem bind_eq_ok_iff {ε α β : Type} {x : Except ε α} {f : α → Except ε β} {b : β} :
    x >>= f = .ok b ↔ ∃ a, x = .ok a ∧ f a = .ok b := by
  cases x with
  | error failure =>
    constructor
    · intro h
      cases h
    · rintro ⟨_, ⟨⟩, -⟩
  | ok a =>
    constructor
    · exact fun h ↦ ⟨a, rfl, h⟩
    · rintro ⟨_, ⟨⟩, h⟩
      exact h

theorem segmentOctets_eq_ok_iff {segment : List Char} {octets : List UInt8} :
    segmentOctets segment = .ok octets ↔ segment = encode octets := by
  rw [← Text.Base64Url.decode?_eq_some_iff, segmentOctets]
  cases Text.Base64Url.decode? segment with
  | none => simp
  | some _ => simp

/-- The segments of a token and its header. -/
theorem readHeader_eq_ok_iff {token : String} {s : Token.Segments} {header : Token.Header} :
    readHeader token = .ok (s, header) ↔
      Token.Segments.ofChars? token.toList = some s ∧ ∃ octets, s.header = encode octets ∧
        (Json.Document.ofOctets? octets).bind Token.Header.ofDocument? = some header := by
  rw [readHeader]
  cases hs : Token.Segments.ofChars? token.toList with
  | none =>
    constructor
    · intro h
      cases h
    · rintro ⟨⟨⟩, -⟩
  | some segments =>
    show (segmentOctets segments.header >>= _) = _ ↔ _
    rw [bind_eq_ok_iff]
    constructor
    · rintro ⟨octets, ho, h⟩
      split at h
      · next hd =>
        obtain ⟨rfl, rfl⟩ := Prod.mk.inj (Except.ok.inj h)
        exact ⟨rfl, octets, segmentOctets_eq_ok_iff.1 ho, hd⟩
      · cases h
    · rintro ⟨h, octets, ho, hd⟩
      obtain rfl := Option.some.inj h
      exact ⟨octets, segmentOctets_eq_ok_iff.2 ho, by rw [hd]⟩

/-- The signature is one of a usable key for RSA. -/
theorem checkSignature_eq_ok_iff {s : Token.Segments} {key : Token.SigningKey} {u : Unit} :
    checkSignature s key = .ok u ↔ ∃ rsa octets, key.material.usable? = some (.rsa rsa) ∧
      s.signature = encode octets ∧
        Signature.Rsa.verifies rsa (Text.Utf8.encode s.signed) octets := by
  rw [checkSignature]
  rcases key.material.usable? with - | rsa | -
  · simp
  · show (segmentOctets s.signature >>= _) = _ ↔ _
    rw [bind_eq_ok_iff]
    constructor
    · rintro ⟨octets, ho, h⟩
      split at h
      · next hv => exact ⟨rsa, octets, rfl, segmentOctets_eq_ok_iff.1 ho, hv⟩
      · cases h
    · rintro ⟨_, octets, ⟨⟩, ho, hv⟩
      exact ⟨octets, segmentOctets_eq_ok_iff.2 ho, if_pos hv⟩
  · simp

/-- The two readings of the payload. -/
theorem readClaims_eq_ok_iff {payload : List Char} {owner : Token.OwnerClaims}
    {validity : Token.ValidityClaims} :
    readClaims payload = .ok (owner, validity) ↔ ∃ octets d, payload = encode octets ∧
      Json.Document.ofOctets? octets = some d ∧
        Token.OwnerClaims.ofDocument? Json.nestingLimit d = some owner ∧
          Token.ValidityClaims.ofDocument? Json.nestingLimit d = some validity := by
  rw [readClaims, bind_eq_ok_iff]
  constructor
  · rintro ⟨octets, ho, h⟩
    split at h
    · cases h
    · next d hd =>
      split at h
      · next howner hvalidity =>
        obtain ⟨rfl, rfl⟩ := Prod.mk.inj (Except.ok.inj h)
        exact ⟨octets, d, segmentOctets_eq_ok_iff.1 ho, hd, howner, hvalidity⟩
      · cases h
  · rintro ⟨octets, d, ho, hd, howner, hvalidity⟩
    exact ⟨octets, segmentOctets_eq_ok_iff.2 ho, by rw [hd]; dsimp only; rw [howner, hvalidity]⟩

/-- **The claims are valid** if the three that must be there are, the token has not expired, the
issuer is the expected one, and the audience is not a refused one. -/
theorem checkValidity_eq_ok_iff {v : Verifier} {claims : Token.ValidityClaims} {now : Nat}
    {u : Unit} :
    v.checkValidity claims now = .ok u ↔ ∃ expiry issuers,
      (claims.expiry = some expiry ∧ claims.subject.isSome ∧ claims.issuers = some issuers) ∧
        now ≤ expiry + v.leeway ∧ v.issuer ∈ issuers ∧
          ∀ audience ∈ v.audience, ∀ audiences ∈ claims.audiences, audience ∈ audiences := by
  obtain ⟨expiry, subject, issuers, audiences⟩ := claims
  rw [checkValidity]
  rcases expiry with - | expiry
  · simp
  rcases subject with - | subject
  · simp
  rcases issuers with - | issuers
  · simp
  dsimp only
  by_cases he : expiry < now - v.leeway
  · rw [if_pos he]
    constructor
    · intro h
      cases h
    · rintro ⟨_, _, ⟨⟨⟩, -⟩, hle, -⟩
      omega
  by_cases hi : v.issuer ∈ issuers
  · rw [if_neg he, if_neg (by simpa using hi)]
    have hle : now ≤ expiry + v.leeway := by omega
    cases v.audience with
    | none => simp [hle, hi]
    | some audience =>
      cases audiences with
      | none => simp [hle, hi]
      | some audiences =>
        by_cases ha : audience ∈ audiences
        · simp [hle, hi, ha]
        · simp [ha]
  · rw [if_neg he, if_pos (by simpa using hi)]
    constructor
    · intro h
      cases h
    · rintro ⟨_, _, ⟨-, -, ⟨⟩⟩, -, hin, -⟩
      exact absurd hin hi

end Verifier

end AccountDirectory
