import AccountDirectory.Proofs.Verifier.Checks
import AccountDirectory.Proofs.Verifier.KeyLookup

/-!
# Which tokens are accepted

A verification is a chain of checks, and each of them can only refuse. `Supports` lists what has to
stand behind an accepted token, one field for a check, about one piece of `Evidence`: the octets of
the three segments, what they are read as, and the key.

`yields_verify_iff_supports` is the law: a verification yields claims if and only if some evidence
supports the token, the audience is not refused, and the claims are those of the owner. So no check
is missing, and nothing else can refuse a token. Without a configured audience none is refused.

What a signature, a header, a key set and a payload are, is what their readers make of the octets
(`Signature.Rsa.verifies`, `Token.Header.ofDocument?`, `Token.KeySet.ofOctets?`, `Token.Attests`).
-/

namespace AccountDirectory

open Text.Base64Url (encode)

namespace Verifier

/-! ### What supports a token -/

/-- What an accepted token is read as, and the key that it is signed with. -/
structure Evidence where
  /-- The octets of the first segment, -/
  heading : List UInt8
  /-- of the second, -/
  payload : List UInt8
  /-- and of the third. -/
  signature : List UInt8
  header : Token.Header
  /-- The world in which the lookup of the key ends. -/
  moment : World
  /-- The key set that is kept there. -/
  kept : CachedKeys
  key : Token.SigningKey
  rsa : Signature.Rsa.PublicKey
  document : Json.Document
  owner : Token.OwnerClaims
  expiry : Nat
  issuers : List String

/-- **The evidence supports a token** for a scope. -/
structure Supports (v : Verifier) (w : World) (token scope : String) (e : Evidence) : Prop where
  /-- The token is three segments in base-64 with dots between them. -/
  spelled : token.toList = encode e.heading ++ '.' :: (encode e.payload ++ '.' :: encode e.signature)
  /-- The first one is a header, -/
  headed : (Json.Document.ofOctets? e.heading).bind Token.Header.ofDocument? = some e.header
  /-- which names the one algorithm that is accepted. -/
  algorithm : e.header.algorithm = .rs256
  /-- The lookup for the header's key id ends here. -/
  decided : v.Decides e.header.keyId w e.moment
  /-- A key set is kept by then, -/
  kept : e.moment.keys = some e.kept
  /-- it has not outlived its lifetime, in seconds, -/
  current : e.moment.clock ≤ e.kept.fetchedAt + 1000 * v.keySetLifetime
  /-- and gives the key: the first one with that id, or the first of all without an id. -/
  found : e.kept.keys.Gives e.header.keyId e.key
  /-- The key can be used. -/
  usable : e.key.material.usable? = some (.rsa e.rsa)
  /-- The third segment is its signature of the first two. -/
  signed : Signature.Rsa.verifies e.rsa
    (Text.Utf8.encode (encode e.heading ++ '.' :: encode e.payload)) e.signature
  /-- The second segment is a document -/
  read : Json.Document.ofOctets? e.payload = some e.document
  /-- that has an owner, an expiry and issuers. -/
  attested : Token.Attests e.document e.owner e.expiry e.issuers
  /-- The token has not expired, by the leeway. -/
  unexpired : w.calendar ≤ e.expiry + v.leeway
  /-- It comes from the expected issuer. -/
  issued : v.issuer ∈ e.issuers
  /-- Its subject is not blank. -/
  subject : ¬Text.isBlankText e.owner.subject
  /-- It grants the scope. -/
  granted : scope ∈ e.owner.grants

/-- **The audience is not refused**: if one is configured, and the payload spells audiences, it is
among them. -/
def AdmitsAudience (v : Verifier) (d : Json.Document) : Prop :=
  ∀ audience ∈ v.audience, ∀ x audiences, d.member? "aud" = some x → x.Spells audiences →
    audience ∈ audiences

theorem Decides.calendar_eq {v : Verifier} {keyId : Option String} {w w' : World}
    (h : v.Decides keyId w w') : w'.calendar = w.calendar := by
  cases h with
  | kept => exact World.calendar_look
  | fetched =>
    rw [World.calendar_look]
    exact World.calendar_look.trans World.calendar_look

open World (Yields yields_bind_iff yields_pure_iff yields_done_bind_iff yields_calendar_bind_iff
  not_yields_throw)

/-- **The steps of an acceptance.** A verification yields claims if each of its checks passes. -/
theorem yields_verify_iff {v : Verifier} {token scope : String} {w w' : World} {claims : Claims} :
    Yields (v.verify token scope) w claims w' ↔
      ∃ s header key owner validity,
        readHeader token = .ok (s, header) ∧ header.algorithm = .rs256 ∧
        Yields (v.signingKey header.keyId) w key w' ∧
        checkSignature s key = .ok () ∧
        readClaims s.payload = .ok (owner, validity) ∧
        v.checkValidity validity w'.calendar = .ok () ∧
        ¬Text.isBlankText owner.subject ∧ (claimsOf owner).hasScope scope ∧
        claims = claimsOf owner := by
  rw [verify, yields_done_bind_iff]
  constructor
  · rintro ⟨⟨s, header⟩, hr, h₁⟩
    dsimp only at h₁
    split at h₁
    · exact absurd h₁ not_yields_throw
    next halg =>
    obtain ⟨key, moment, hk, h₂⟩ := yields_bind_iff.1 h₁
    obtain ⟨_, hs, h₃⟩ := yields_done_bind_iff.1 h₂
    obtain ⟨⟨owner, validity⟩, hc, h₄⟩ := yields_done_bind_iff.1 h₃
    obtain ⟨_, hv, h₅⟩ := yields_done_bind_iff.1 (yields_calendar_bind_iff.1 h₄)
    dsimp only at h₅
    split at h₅
    · exact absurd h₅ not_yields_throw
    next hb =>
    split at h₅
    · next hg =>
      obtain ⟨rfl, rfl⟩ := yields_pure_iff.1 h₅
      exact ⟨s, header, key, owner, validity, hr, not_not.1 halg, hk, hs, hc, hv, hb, hg, rfl⟩
    · exact absurd h₅ not_yields_throw
  · rintro ⟨s, header, key, owner, validity, hr, halg, hk, hs, hc, hv, hb, hg, rfl⟩
    refine ⟨(s, header), hr, ?_⟩
    dsimp only
    rw [if_neg (not_not.2 halg)]
    refine yields_bind_iff.2 ⟨key, w', hk, ?_⟩
    refine yields_done_bind_iff.2 ⟨(), hs, ?_⟩
    refine yields_done_bind_iff.2 ⟨(owner, validity), hc, ?_⟩
    refine yields_calendar_bind_iff.2 (yields_done_bind_iff.2 ⟨(), hv, ?_⟩)
    dsimp only
    rw [if_neg hb, if_pos hg]
    exact yields_pure_iff.2 ⟨rfl, rfl⟩

/-- **The law of acceptance.** A verification yields claims if and only if some evidence supports the
token, the audience is not refused, and the claims are those of the owner. -/
theorem yields_verify_iff_supports {v : Verifier} {token scope : String} {w w' : World}
    {claims : Claims} :
    Yields (v.verify token scope) w claims w' ↔
      ∃ e, v.Supports w token scope e ∧ v.AdmitsAudience e.document ∧
        claims = claimsOf e.owner ∧ w' = e.moment := by
  rw [yields_verify_iff]
  constructor
  · -- what each check has read is a piece of the evidence
    rintro ⟨s, header, key, owner, validity, hr, halg, hk, hs, hc, hv, hb, hg, rfl⟩
    obtain ⟨hseg, heading, hheading, hhead⟩ := readHeader_eq_ok_iff.1 hr
    obtain ⟨hspelled, -, -⟩ := Token.Segments.ofChars?_eq_some_iff.1 hseg
    obtain ⟨hdecides, hkey⟩ := yields_signingKey_iff.1 hk
    obtain ⟨kept, hkept, hcurrent, hfound⟩ := v.keyIn_eq_some_iff_gives.1 hkey
    obtain ⟨rsa, signature, husable, hsignature, hsigned⟩ := checkSignature_eq_ok_iff.1 hs
    obtain ⟨payload, document, hpayload, hread, ho, hval⟩ := readClaims_eq_ok_iff.1 hc
    obtain ⟨expiry, issuers, hclaims, hunexpired, hissued, haud⟩ := checkValidity_eq_ok_iff.1 hv
    have hattests := Token.attests_iff.2 ⟨ho, validity, hval, hclaims⟩
    rw [hdecides.calendar_eq] at hunexpired
    rw [Token.Segments.signed, hheading, hpayload] at hsigned
    rw [hheading, hpayload, hsignature] at hspelled
    refine ⟨⟨heading, payload, signature, header, w', kept, key, rsa, document, owner, expiry,
      issuers⟩, ?_, ?_, rfl, rfl⟩
    · exact
        { spelled := hspelled, headed := hhead, algorithm := halg, decided := hdecides
          kept := hkept, current := hcurrent, found := hfound, usable := husable
          signed := hsigned, read := hread, attested := hattests, unexpired := hunexpired
          issued := hissued, subject := hb, granted := hasScope_claimsOf_iff.1 hg }
    · intro audience ha x audiences hx hspells
      exact haud audience ha audiences ((hattests.audiences_eq_some_iff hval).2 ⟨x, hx, hspells⟩)
  · -- the segments are written forms, so the token is cut where they end
    rintro ⟨e, h, haud, rfl, rfl⟩
    obtain ⟨ho, validity, hval, hclaims⟩ := Token.attests_iff.1 h.attested
    refine ⟨⟨encode e.heading, encode e.payload, encode e.signature⟩, e.header, e.key, e.owner,
      validity, ?_, h.algorithm, ?_, ?_, ?_, ?_, h.subject, ?_, rfl⟩
    · refine readHeader_eq_ok_iff.2 ⟨Token.Segments.ofChars?_eq_some_iff.2 ?_, e.heading, rfl,
        h.headed⟩
      exact ⟨h.spelled, Text.Base64Url.dot_notMem_encode _, Text.Base64Url.dot_notMem_encode _⟩
    · exact yields_signingKey_iff.2
        ⟨h.decided, v.keyIn_eq_some_iff_gives.2 ⟨e.kept, h.kept, h.current, h.found⟩⟩
    · exact checkSignature_eq_ok_iff.2 ⟨e.rsa, e.signature, h.usable, rfl, h.signed⟩
    · exact readClaims_eq_ok_iff.2 ⟨e.payload, e.document, rfl, h.read, ho, hval⟩
    · refine checkValidity_eq_ok_iff.2 ⟨e.expiry, e.issuers, hclaims, ?_, h.issued, ?_⟩
      · rw [h.decided.calendar_eq]
        exact h.unexpired
      · intro audience ha audiences haudiences
        obtain ⟨x, hx, hspells⟩ := (h.attested.audiences_eq_some_iff hval).1 haudiences
        exact haud audience ha x audiences hx hspells
    · exact hasScope_claimsOf_iff.2 h.granted

/-- The law for the ending of a run, with the claims spelled out. -/
theorem ending_verify_iff {v : Verifier} {w : World} {token scope : String} {claims : Claims} :
    ((v.verify token scope).run.run World.respond w).ending = .finished (.ok claims) ↔
      ∃ e, v.Supports w token scope e ∧ v.AdmitsAudience e.document ∧
        claims.subject = e.owner.subject ∧
        Claims.IsFirstMentions e.owner.grants claims.scopes := by
  constructor
  · intro h
    obtain ⟨e, he, haud, hc, -⟩ := yields_verify_iff_supports.1 ⟨h, rfl⟩
    exact ⟨e, he, haud, eq_claimsOf_iff.1 hc⟩
  · rintro ⟨e, he, haud, hc⟩
    exact (yields_verify_iff_supports.2 ⟨e, he, haud, eq_claimsOf_iff.2 hc, rfl⟩).1

/-! ### Verifiers without an audience -/

theorem admitsAudience_of_none {v : Verifier} (hv : v.audience = none) (d : Json.Document) :
    v.AdmitsAudience d := by
  intro audience ha
  rw [hv] at ha
  cases ha

/-- **A verifier without an audience accepts what is supported**, and nothing else. The claims are
the subject of the token and the first mentions of what it grants. -/
theorem verify_ok_iff {v : Verifier} (hv : v.audience = none) (w : World) (token scope : String)
    (claims : Claims) :
    ((v.verify token scope).run.run World.respond w).ending = .finished (.ok claims) ↔
      ∃ e, v.Supports w token scope e ∧ claims.subject = e.owner.subject ∧
        Claims.IsFirstMentions e.owner.grants claims.scopes := by
  rw [ending_verify_iff]
  refine exists_congr fun e ↦ and_congr_right fun _ ↦ ?_
  exact and_iff_right (admitsAudience_of_none hv e.document)

end Verifier

/-! ### A token that is accepted -/

namespace Sample

/-- The header of the sample, which names the key `a`. -/
def heading : List UInt8 := Text.Utf8.encode "\x7b\"alg\":\"RS256\",\"kid\":\"a\"\x7d".toList

/-- The payload of the sample, without a claim about the audience. -/
def payload : List UInt8 :=
  Text.Utf8.encode "\x7b\"sub\":\"ann\",\"iss\":\"home\",\"exp\":60,".toList ++
    Text.Utf8.encode "\"scope\":\"read write\",\"permissions\":[\"read\"]\x7d".toList

/-- The modulus of the key `a`; its public exponent is 3. -/
def modulus : List UInt8 :=
  [0xa4, 0x5f, 0xc8, 0x0e, 0x82, 0x29, 0x97, 0x29, 0x81, 0xe2, 0x5b, 0xd4, 0x25, 0x1e, 0xde, 0xe2,
    0x99, 0x2c, 0x63, 0xb4, 0xff, 0xd2, 0xb4, 0xa4, 0x6b, 0xa6, 0x27, 0x21, 0x87, 0xa2, 0xff, 0x8c,
    0x49, 0xdb, 0x0b, 0x5d, 0x4d, 0xb3, 0x5c, 0x0c, 0xbc, 0x52, 0xcc, 0x86, 0x57, 0xd3, 0xe4, 0xe4,
    0x7b, 0x37, 0x3f, 0x16, 0xd9, 0x19, 0x0b, 0x7e, 0x59, 0x71, 0x07, 0x58, 0x00, 0x78, 0x86, 0x2d]

/-- The signature of header and payload. -/
def signature : List UInt8 :=
  [0x2b, 0x00, 0x6d, 0xe6, 0x64, 0x55, 0xfb, 0xc5, 0xb5, 0x92, 0x68, 0x14, 0x62, 0x04, 0xb7, 0xf8,
    0x92, 0xad, 0x1a, 0x09, 0x05, 0xfb, 0x71, 0xb8, 0x49, 0x79, 0x2e, 0x02, 0x63, 0xcc, 0x48, 0x34,
    0xd9, 0x97, 0xef, 0x03, 0xd0, 0xb4, 0x3a, 0xb8, 0xb3, 0xc9, 0x4d, 0x93, 0xa9, 0xc2, 0xa9, 0xec,
    0x50, 0xa3, 0xe6, 0x4f, 0xbc, 0x9d, 0xf9, 0x7c, 0xca, 0xde, 0xaa, 0xf2, 0x26, 0xf0, 0x95, 0x77]

/-- The sample. -/
def token : String :=
  String.ofList (encode heading ++ '.' :: (encode payload ++ '.' :: encode signature))

/-- The key `a`, -/
def rsa : Signature.Rsa.PublicKey :=
  ⟨Signature.Rsa.natural modulus, Signature.Rsa.natural [3]⟩

/-- and as a key set publishes it. -/
def key : Token.SigningKey :=
  ⟨some "a", .rsa (String.ofList (encode modulus)) (String.ofList (encode [3]))⟩

/-- A world in which the key is kept. -/
def world : World where
  clock := 0
  delays := []
  calendar := 50
  token := none
  keys := some ⟨⟨[key]⟩, 0⟩
  server _ := .never

/-- A verifier for the issuer of the sample. -/
def verifier (audience : Option String) : Verifier where
  issuer := "home"
  keysAddress := ""
  audience := audience
  leeway := 0
  keySetLifetime := 1

/-- The owner of the sample. -/
def owner : Token.OwnerClaims := ⟨"ann", some (.words "read write"), ["read"]⟩

theorem payload_attests : ∃ d, Json.Document.ofOctets? payload = some d ∧
    Token.Attests d owner 60 ["home"] ∧ d.member? "aud" = none := by
  have ho : (Json.Document.ofOctets? payload).bind
      (Token.OwnerClaims.ofDocument? Json.nestingLimit) = some owner := by decide +kernel
  have hv : (Json.Document.ofOctets? payload).bind
      (Token.ValidityClaims.ofDocument? Json.nestingLimit) =
        some ⟨some 60, some "ann", some ["home"], none⟩ := by decide +kernel
  have ha : ((Json.Document.ofOctets? payload).bind (·.member? "aud")).isNone := by decide +kernel
  obtain ⟨d, hd, ho⟩ := Option.bind_eq_some_iff.1 ho
  rw [hd] at hv ha
  exact ⟨d, hd, Token.attests_iff.2 ⟨ho, _, hv, rfl, rfl, rfl⟩, Option.isNone_iff_eq_none.1 ha⟩

theorem heading_names : (Json.Document.ofOctets? heading).bind Token.Header.ofDocument? =
    some ⟨.rs256, some "a"⟩ := by
  decide +kernel

/-- A published key is used as it is spelled. -/
theorem usable?_rsa (modulus exponent : List UInt8) :
    (Token.KeyMaterial.rsa (String.ofList (encode modulus))
      (String.ofList (encode exponent))).usable? =
        some (.rsa ⟨Signature.Rsa.natural modulus, Signature.Rsa.natural exponent⟩) := by
  simp [Token.KeyMaterial.usable?, Token.KeyMaterial.part?, Text.Base64Url.decode?_encode]

/-- The key with this modulus and the public exponent 3, as a key set publishes it. -/
def published (modulus : List UInt8) : Token.SigningKey :=
  ⟨some "a", .rsa (String.ofList (encode modulus)) (String.ofList (encode [3]))⟩

/-- A world in which that key is kept. -/
def keeping (modulus : List UInt8) : World :=
  { world with keys := some ⟨⟨[published modulus]⟩, 0⟩ }

/-- A token with the header of the sample is supported where the key that has signed it is kept. -/
theorem exists_supports_of_signed {v : Verifier} {scope : String}
    {modulus payload signature : List UInt8} {d : Json.Document} {owner : Token.OwnerClaims}
    {expiry : Nat} {issuers : List String}
    (hsigned : Signature.Rsa.verifies
      ⟨Signature.Rsa.natural modulus, Signature.Rsa.natural [3]⟩
      (Text.Utf8.encode (encode heading ++ '.' :: encode payload)) signature)
    (hread : Json.Document.ofOctets? payload = some d)
    (hattests : Token.Attests d owner expiry issuers)
    (hunexpired : world.calendar ≤ expiry + v.leeway) (hissued : v.issuer ∈ issuers)
    (hsubject : ¬Text.isBlankText owner.subject) (hgranted : scope ∈ owner.grants) :
    ∃ e, v.Supports (keeping modulus)
        (String.ofList (encode heading ++ '.' :: (encode payload ++ '.' :: encode signature)))
        scope e ∧
      e.owner = owner ∧ e.document = d := by
  have hkey : v.keyIn (keeping modulus).look (some "a") = some (published modulus) :=
    v.keyIn_eq_some_iff_gives.2 ⟨_, rfl, Nat.zero_le _, Token.KeySet.find?_eq_some_iff.1 rfl⟩
  obtain ⟨kept, hkept, hcurrent, hfound⟩ := v.keyIn_eq_some_iff_gives.1 hkey
  refine ⟨⟨heading, payload, signature, ⟨.rs256, some "a"⟩, (keeping modulus).look, kept,
    published modulus, ⟨Signature.Rsa.natural modulus, Signature.Rsa.natural [3]⟩, d, owner,
    expiry, issuers⟩, ?_, rfl, rfl⟩
  exact
    { spelled := String.toList_ofList, headed := heading_names, algorithm := rfl
      decided := .kept (Option.isSome_of_eq_some hkey), kept := hkept, current := hcurrent
      found := hfound, usable := usable?_rsa modulus [3], signed := hsigned, read := hread
      attested := hattests, unexpired := hunexpired, issued := hissued, subject := hsubject
      granted := hgranted }

theorem verifies_payload : Signature.Rsa.verifies rsa
    (Text.Utf8.encode (encode heading ++ '.' :: encode payload)) signature := by
  decide +kernel

/-- The sample is supported, whatever the audience. -/
theorem exists_supports (audience : Option String) :
    ∃ e, (verifier audience).Supports world token "read" e ∧ e.owner = owner ∧
      e.document.member? "aud" = none := by
  obtain ⟨d, hread, hattests, haud⟩ := payload_attests
  obtain ⟨e, he, howner, rfl⟩ := exists_supports_of_signed (v := verifier audience)
    verifies_payload hread hattests (Nat.le_add_left 50 10) (List.mem_singleton_self _) (by decide)
    (by decide : "read" ∈ owner.grants)
  exact ⟨e, he, howner, haud⟩

/-- The scopes that the sample grants are `read` and `write`. -/
theorem isFirstMentions_grants : Claims.IsFirstMentions owner.grants ["read", "write"] :=
  Claims.isFirstMentions_iff.2 (by decide)

end Sample

/-- Without an audience, the sample is accepted. -/
theorem Verifier.verify_sample :
    (Sample.verifier none).audience = none ∧
      (((Sample.verifier none).verify Sample.token "read").run.run World.respond
        Sample.world).ending = .finished (.ok ⟨"ann", ["read", "write"]⟩) := by
  obtain ⟨e, he, howner, -⟩ := Sample.exists_supports none
  refine ⟨rfl, (verify_ok_iff rfl Sample.world Sample.token "read" _).2 ⟨e, he, ?_⟩⟩
  rw [howner]
  exact ⟨rfl, Sample.isFirstMentions_grants⟩

end AccountDirectory
