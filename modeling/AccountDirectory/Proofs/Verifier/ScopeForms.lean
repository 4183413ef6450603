import AccountDirectory.Proofs.Claims.Gathering
import AccountDirectory.Proofs.Json.RoundTrip
import AccountDirectory.Proofs.Json.Shapes
import AccountDirectory.Proofs.Text.Utf8
import AccountDirectory.Proofs.Verifier.Acceptance

/-!
# The two forms of a scope claim

A token names its scopes in one text, with spaces between them, or in a list (`Token.NamesScopes`).
The two forms say the same: splitting a text of words at its blanks undoes the joining.

So a verifier does not tell apart two tokens that differ in the form only. `Verifier.Restates` is the
relation between them: the same header, payloads with the same members but for the form of the scope
claim, and signatures under the key that the verifier looks up, or none on either side.

`Verifier.verify_grantsAsGiven` puts this together with the law of the builder: the scopes of claims
are the entries that were given, each once, whatever the form that they were given in.
-/

namespace AccountDirectory

open Json (Document Record nestingLimit)
open Json.Document (ofFields)
open Text.Base64Url (encode)

namespace Token

/-! ### Scopes in either form -/

/-- The text is one word. -/
def IsWord (s : String) : Prop := s ≠ "" ∧ ∀ c ∈ s.toList, ¬Text.isBlank c

/-- **The document names these scopes.** -/
inductive NamesScopes (scopes : List String) : Document → Prop
  /-- In one text, with spaces between them, -/
  | joined : NamesScopes scopes (.ofName (" ".intercalate scopes))
  /-- or in a list. -/
  | listed : NamesScopes scopes (.list (scopes.map .ofName))

variable {scopes : List String}

/-- The words of a text that joins words are these words. -/
theorem entries_joined (hscopes : ∀ s ∈ scopes, IsWord s) :
    (ScopeClaim.words (" ".intercalate scopes)).entries = scopes := by
  have hspace : Text.isBlank ' ' := by decide
  have hwords : ∀ w ∈ scopes.map String.toList, w ≠ [] ∧ ∀ c ∈ w, ¬Text.isBlank c := by
    refine List.forall_mem_map.2 fun s hs ↦ ⟨fun hnil ↦ ?_, (hscopes s hs).2⟩
    exact (hscopes s hs).1 (String.toList_eq_nil_iff.1 hnil)
  show (Text.words (" ".intercalate scopes).toList).map String.ofList = scopes
  rw [String.toList_intercalate]
  show (Text.words ([' '].intercalate _)).map String.ofList = scopes
  rw [Text.words_intercalate hspace hwords, Text.map_ofList_map_toList]

/-- **Either form is read as a claim of these scopes.** -/
theorem NamesScopes.exists_claim {budget : Nat} (hb : budget ≠ 0)
    (hscopes : ∀ s ∈ scopes, IsWord s) {d : Document} (h : NamesScopes scopes d) :
    ∃ claim, Json.Reader.nullable ScopeClaim.ofDocument? budget d = some (some claim) ∧
      claim.entries = scopes := by
  cases h with
  | joined => exact ⟨.words (" ".intercalate scopes), rfl, entries_joined hscopes⟩
  | listed =>
    refine ⟨.list scopes, ?_, rfl⟩
    have hread := (Json.Reader.list_text_eq_some_iff hb).2 (rfl : Document.list (scopes.map .ofName) = _)
    show (ScopeClaim.ofDocument? budget _).map some = _
    rw [ScopeClaim.ofDocument?, hread]
    rfl

/-! ### Payloads that differ in the form -/

variable {before after : List (String × Document)} {d d' : Document}

/-- The owner is read with the other claim, and does not change otherwise. -/
theorem OwnerClaims.ofDocument?_replace {budget : Nat} {claim claim' : ScopeClaim}
    {owner : OwnerClaims}
    (hd : Json.Reader.nullable ScopeClaim.ofDocument? (budget - 1) d = some (some claim))
    (hd' : Json.Reader.nullable ScopeClaim.ofDocument? (budget - 1) d' = some (some claim'))
    (h : ofDocument? budget (ofFields (before ++ ("scope", d) :: after)) = some owner) :
    owner.scope = some claim ∧
      ofDocument? budget (ofFields (before ++ ("scope", d') :: after)) =
        some { owner with scope := some claim' } := by
  rw [ofDocument?] at h ⊢
  obtain ⟨r, hr, h⟩ := Option.bind_eq_some_iff.1 h
  obtain ⟨subject, hsubject, h⟩ := Option.bind_eq_some_iff.1 h
  obtain ⟨scope, hscope, h⟩ := Option.bind_eq_some_iff.1 h
  obtain ⟨permissions, hpermissions, h⟩ := Option.bind_eq_some_iff.1 h
  obtain rfl := Option.some.inj h
  obtain ⟨hl, r', hr', hbudget, hl', hothers⟩ :=
    Record.ofDocument?_replace (by decide : "scope" ∈ ["sub", "scope", "permissions"]) hr d'
  obtain ⟨hbelow, -⟩ := Record.lookup_ofDocument? hr
  rw [Record.optional, Record.defaulted, hl, hbelow] at hscope
  obtain rfl := Option.some.inj (hd.symm.trans hscope)
  refine ⟨rfl, Option.bind_eq_some_iff.2 ⟨r', hr', ?_⟩⟩
  rw [Record.defaulted, ← hbudget, ← hothers "sub" (by decide)] at hsubject
  rw [Record.defaulted, ← hbudget, ← hothers "permissions" (by decide)] at hpermissions
  refine Option.bind_eq_some_iff.2 ⟨subject, hsubject, Option.bind_eq_some_iff.2 ⟨_, ?_,
    Option.bind_eq_some_iff.2 ⟨permissions, hpermissions, rfl⟩⟩⟩
  rw [Record.optional, Record.defaulted, hl', hbudget, hbelow]
  exact hd'

theorem member?_replace {name : String} (hname : name ≠ "scope") :
    (ofFields (before ++ ("scope", d) :: after)).member? name =
      (ofFields (before ++ ("scope", d') :: after)).member? name := by
  rw [ofFields, ofFields, Document.member?, Document.member?, Record.lookup_map_some,
    Record.lookup_map_some, List.lookup_append, List.lookup_append, List.lookup_cons,
    List.lookup_cons, beq_false_of_ne hname]

/-- **A payload attests the same** with the scopes in the other form. -/
theorem Attests.replace {owner : OwnerClaims} {expiry : Nat} {issuers : List String}
    {claim claim' : ScopeClaim}
    (hd : Json.Reader.nullable ScopeClaim.ofDocument? (nestingLimit - 1) d = some (some claim))
    (hd' : Json.Reader.nullable ScopeClaim.ofDocument? (nestingLimit - 1) d' = some (some claim'))
    (h : Attests (ofFields (before ++ ("scope", d) :: after)) owner expiry issuers) :
    owner.scope = some claim ∧ Attests (ofFields (before ++ ("scope", d') :: after))
      { owner with scope := some claim' } expiry issuers := by
  obtain ⟨hscope, howner⟩ := OwnerClaims.ofDocument?_replace hd hd' h.ofOwner
  have hvalidity := h.ofValidity
  rw [ValidityClaims.ofDocument?, Record.ofDocument?_skip (by decide)] at hvalidity
  exact ⟨hscope,
    { ofOwner := howner
      ofValidity := by
        rwa [ValidityClaims.ofDocument?, Record.ofDocument?_skip (by decide)]
      exp := member?_replace (by decide : "exp" ≠ "scope") ▸ h.exp
      sub := member?_replace (by decide : "sub" ≠ "scope") ▸ h.sub
      iss := member?_replace (by decide : "iss" ≠ "scope") ▸ h.iss }⟩

/-! ### Tokens that differ in the form -/

/-- The token with these three segments. -/
def ofParts (heading payload signature : List UInt8) : String :=
  String.ofList (encode heading ++ '.' :: (encode payload ++ '.' :: encode signature))

/-- What of a token is signed. -/
def signedOctets (heading payload : List UInt8) : List UInt8 :=
  Text.Utf8.encode (encode heading ++ '.' :: encode payload)

/-- A token has one set of segments. -/
theorem ofParts_injective {heading payload signature heading' payload' signature' : List UInt8}
    (h : (ofParts heading payload signature).toList =
      encode heading' ++ '.' :: (encode payload' ++ '.' :: encode signature')) :
    heading' = heading ∧ payload' = payload ∧ signature' = signature := by
  rw [ofParts, String.toList_ofList] at h
  have hcut : ∀ a b c : List UInt8,
      Segments.ofChars? (encode a ++ '.' :: (encode b ++ '.' :: encode c)) =
        some ⟨encode a, encode b, encode c⟩ :=
    fun a b c ↦ Segments.ofChars?_eq_some_iff.2
      ⟨rfl, Text.Base64Url.dot_notMem_encode b, Text.Base64Url.dot_notMem_encode c⟩
  have hparts := Segments.mk.inj (Option.some.inj (hcut .. ▸ h ▸ hcut heading payload signature))
  have hencode := Text.Base64Url.encode_injective
  exact ⟨hencode hparts.1, hencode hparts.2.1, hencode hparts.2.2⟩

end Token

namespace Verifier

open Token (IsWord NamesScopes ofParts signedOctets)

/-- **Two tokens say the same** to a verifier in a world, up to the form in which they name their
scopes. They have one header; their other two segments are given. -/
structure Restates (v : Verifier) (w : World) (scopes : List String) (heading : List UInt8)
    (payload signature payload' signature' : List UInt8) : Prop where
  /-- The payloads have the same members, but for the form of the scopes. -/
  payloads : ∃ before after d d', NamesScopes scopes d ∧ NamesScopes scopes d' ∧
    Document.ofOctets? payload = some (ofFields (before ++ ("scope", d) :: after)) ∧
      Document.ofOctets? payload' = some (ofFields (before ++ ("scope", d') :: after))
  /-- Under the key that the verifier looks up, both are signed or none is. -/
  signatures : ∀ header moment key rsa,
    (Document.ofOctets? heading).bind Token.Header.ofDocument? = some header →
      v.Decides header.keyId w moment → v.keyIn moment header.keyId = some key →
        key.material.usable? = some (.rsa rsa) →
          (Signature.Rsa.verifies rsa (signedOctets heading payload) signature ↔
            Signature.Rsa.verifies rsa (signedOctets heading payload') signature')

variable {v : Verifier} {w : World} {scopes : List String}
  {heading payload signature payload' signature' : List UInt8} {scope : String}

theorem Restates.symm (h : v.Restates w scopes heading payload signature payload' signature') :
    v.Restates w scopes heading payload' signature' payload signature where
  payloads := by
    obtain ⟨before, after, d, d', hd, hd', hread, hread'⟩ := h.payloads
    exact ⟨before, after, d', d, hd', hd, hread', hread⟩
  signatures header moment key rsa hheading hdecides hkey husable :=
    (h.signatures header moment key rsa hheading hdecides hkey husable).symm

/-- **What supports a token supports the other one**, with the scope claim in its other form. -/
theorem Supports.restated (hscopes : ∀ s ∈ scopes, IsWord s)
    (h : v.Restates w scopes heading payload signature payload' signature') {e : Evidence}
    (hsupports : v.Supports w (ofParts heading payload signature) scope e)
    (haud : v.AdmitsAudience e.document) :
    ∃ e', v.Supports w (ofParts heading payload' signature') scope e' ∧
      v.AdmitsAudience e'.document ∧ e'.owner.subject = e.owner.subject ∧
        e'.owner.grants = e.owner.grants := by
  obtain ⟨before, after, d, d', hd, hd', hread, hread'⟩ := h.payloads
  obtain ⟨hheading, hpayload, hsignature⟩ := Token.ofParts_injective hsupports.spelled
  have hb : nestingLimit - 1 ≠ 0 := by decide
  obtain ⟨claim, hclaim, hentries⟩ := hd.exists_claim hb hscopes
  obtain ⟨claim', hclaim', hentries'⟩ := hd'.exists_claim hb hscopes
  have hdocument : e.document = ofFields (before ++ ("scope", d) :: after) :=
    Option.some.inj ((hpayload ▸ hsupports.read).symm.trans hread)
  obtain ⟨hscope, hattests⟩ :=
    Token.Attests.replace hclaim hclaim' (hdocument ▸ hsupports.attested)
  have hgrants : ({ e.owner with scope := some claim' } : Token.OwnerClaims).grants =
      e.owner.grants := by
    rw [Token.OwnerClaims.grants, Token.OwnerClaims.grants, hscope, Option.elim_some,
      Option.elim_some, hentries, hentries']
  have hsigned : Signature.Rsa.verifies e.rsa (signedOctets heading payload') signature' := by
    have hkey : v.keyIn e.moment e.header.keyId = some e.key :=
      v.keyIn_eq_some_iff_gives.2 ⟨e.kept, hsupports.kept, hsupports.current, hsupports.found⟩
    refine (h.signatures e.header e.moment e.key e.rsa (hheading ▸ hsupports.headed)
      hsupports.decided hkey hsupports.usable).1 ?_
    rw [← hheading, ← hpayload, ← hsignature]
    exact hsupports.signed
  refine ⟨{ e with
    heading, payload := payload', signature := signature'
    document := ofFields (before ++ ("scope", d') :: after)
    owner := { e.owner with scope := some claim' } }, ?_, ?_, rfl, hgrants⟩
  · exact
      { spelled := String.toList_ofList, headed := hheading ▸ hsupports.headed
        algorithm := hsupports.algorithm, decided := hsupports.decided, kept := hsupports.kept
        current := hsupports.current, found := hsupports.found, usable := hsupports.usable
        signed := hsigned, read := hread', attested := hattests
        unexpired := hsupports.unexpired, issued := hsupports.issued
        subject := hsupports.subject, granted := hgrants ▸ hsupports.granted }
  · intro audience haudience x audiences hx
    refine haud audience haudience x audiences ?_
    rw [hdocument, Token.member?_replace (by decide : "aud" ≠ "scope")]
    exact hx

/-- **The form of the scopes makes no difference** to what a verification ends with. -/
theorem Restates.ending_iff (hscopes : ∀ s ∈ scopes, IsWord s)
    (h : v.Restates w scopes heading payload signature payload' signature') {claims : Claims} :
    ((v.verify (ofParts heading payload signature) scope).run.run World.respond w).ending =
        .finished (.ok claims) ↔
      ((v.verify (ofParts heading payload' signature') scope).run.run World.respond w).ending =
        .finished (.ok claims) := by
  have hgoes : ∀ {payload signature payload' signature'},
      v.Restates w scopes heading payload signature payload' signature' →
        ((v.verify (ofParts heading payload signature) scope).run.run World.respond w).ending =
            .finished (.ok claims) →
          ((v.verify (ofParts heading payload' signature') scope).run.run World.respond w).ending =
            .finished (.ok claims) := by
    intro payload signature payload' signature' h haccepted
    obtain ⟨e, he, haud, hsubject, hscopes'⟩ := ending_verify_iff.1 haccepted
    obtain ⟨e', he', haud', hsubject', hgrants⟩ := he.restated hscopes h haud
    exact ending_verify_iff.2
      ⟨e', he', haud', hsubject.trans hsubject'.symm, hgrants.symm ▸ hscopes'⟩
  exact ⟨hgoes h, hgoes h.symm⟩

/-! ### The law -/

/-- **Scopes are granted as they are given.** For any steps of a builder, entries come together in
one way; the scopes of the claims are their first mentions, each once, a scope is granted if it is
one of them, and the subject is the one that was set last. And of any words, the text that joins
them and the list of them make the same claims, and two tokens that differ in that form only are
accepted for the same scopes, with the same claims. -/
theorem verify_grantsAsGiven :
    (∀ steps : List Claims.Builder.Step,
      ∃ entries, (∀ entries', Claims.Builder.Gathers steps entries' ↔ entries' = entries) ∧
        Claims.IsFirstMentions entries (Claims.Builder.ofSteps steps).build.scopes ∧
        (Claims.Builder.ofSteps steps).build.scopes.Nodup ∧
        (∀ s, (Claims.Builder.ofSteps steps).build.hasScope s ↔ s ∈ entries) ∧
        Claims.Builder.EndsWithSubject steps (Claims.Builder.ofSteps steps).build.subject) ∧
    ∀ scopes : List String, (∀ s ∈ scopes, IsWord s) →
      (∀ subject permissions,
        claimsOf ⟨subject, some (.words (" ".intercalate scopes)), permissions⟩ =
          claimsOf ⟨subject, some (.list scopes), permissions⟩) ∧
      ∀ (v : Verifier) (w : World) (heading payload signature payload' signature' : List UInt8),
        v.Restates w scopes heading payload signature payload' signature' →
          ∀ (scope : String) (claims : Claims),
            ((v.verify (ofParts heading payload signature) scope).run.run World.respond w).ending =
                .finished (.ok claims) ↔
              ((v.verify (ofParts heading payload' signature') scope).run.run
                World.respond w).ending = .finished (.ok claims) := by
  refine ⟨Claims.Builder.build_ofSteps, fun scopes hscopes ↦ ⟨fun subject permissions ↦ ?_, ?_⟩⟩
  · rw [claimsOf_eq, claimsOf_eq, Token.OwnerClaims.grants, Token.OwnerClaims.grants,
      Option.elim_some, Option.elim_some, Token.entries_joined hscopes]
    rfl
  · intro v w heading payload signature payload' signature' h scope claims
    exact h.ending_iff hscopes

/-! ### A pair of tokens -/

namespace FormSample

/-- The payload of the pair, with a scope claim. -/
def payloadOf (scope : Json.Value) : Json.Value :=
  .object [("sub", .text "ann"), ("iss", .text "home"), ("exp", .number (.integer 60 (by decide))),
    ("scope", scope), ("permissions", .list [.text "read"])]

/-- The payload with the scopes in a list. -/
def listed : List UInt8 :=
  Text.Utf8.encode (payloadOf (.list [.text "read", .text "write"])).compact.toList

/-- The modulus of the key of the pair; its public exponent is 3. -/
def modulus : List UInt8 :=
  [0xa5, 0x77, 0x52, 0x82, 0x09, 0xa0, 0xbf, 0x02, 0x8f, 0xa8, 0x9e, 0x09, 0x95, 0x3f, 0xa5, 0x76,
    0x1c, 0x85, 0xb0, 0xe2, 0xae, 0x5c, 0xa8, 0x8f, 0xae, 0x68, 0x4e, 0x0d, 0x80, 0x86, 0xeb, 0x13,
    0xe7, 0x69, 0x47, 0x5e, 0xba, 0x91, 0xb2, 0xff, 0xd0, 0xd6, 0x5c, 0xca, 0xc7, 0x4a, 0x7d, 0xbc,
    0xc0, 0xd6, 0x41, 0x69, 0x9f, 0xf3, 0x89, 0xc2, 0xfb, 0x55, 0xfa, 0x2c, 0xf9, 0xe4, 0x20, 0x9d]

/-- The signature of the token with the scopes in one text. -/
def joinedSignature : List UInt8 :=
  [0x0f, 0x08, 0x8f, 0x1d, 0x21, 0xf0, 0x9d, 0x23, 0x83, 0x89, 0x51, 0x55, 0x0c, 0x74, 0x32, 0x84,
    0xd0, 0x9b, 0x96, 0x37, 0x12, 0x6f, 0x4e, 0xfe, 0xe0, 0x58, 0xe0, 0x94, 0xa7, 0x1f, 0x48, 0xdf,
    0xa4, 0x72, 0xa4, 0xd6, 0x8e, 0xb1, 0xef, 0xed, 0x73, 0xa6, 0x19, 0x8f, 0xa0, 0xc9, 0x50, 0x04,
    0x1c, 0x3c, 0x36, 0x6c, 0xdc, 0x8e, 0x37, 0x03, 0x4a, 0xf2, 0xe9, 0xb4, 0x1b, 0x97, 0xc3, 0xf0]

/-- The signature of the token with the scopes in a list. -/
def listedSignature : List UInt8 :=
  [0x57, 0x8f, 0xd1, 0x3e, 0xbb, 0xe6, 0xb6, 0x4f, 0x0f, 0xaa, 0xff, 0x94, 0x90, 0x4b, 0x03, 0xf2,
    0x4c, 0x00, 0x00, 0xa8, 0x9d, 0x9a, 0x10, 0xb3, 0x2a, 0x67, 0xc9, 0xbd, 0x00, 0x30, 0x49, 0xb3,
    0x9c, 0x68, 0x77, 0x23, 0x40, 0xbf, 0x5b, 0xc8, 0x76, 0x6d, 0x7a, 0xda, 0x8b, 0x22, 0x58, 0x66,
    0xbc, 0xb1, 0x80, 0xcd, 0x70, 0x34, 0xa1, 0x70, 0x6d, 0x08, 0x8a, 0x37, 0x33, 0x5f, 0x53, 0x31]

/-- The key of the pair, -/
def rsa : Signature.Rsa.PublicKey :=
  ⟨Signature.Rsa.natural modulus, Signature.Rsa.natural [3]⟩

/-- and as a key set publishes it. -/
def key : Token.SigningKey :=
  ⟨some "a", .rsa (String.ofList (encode modulus)) (String.ofList (encode [3]))⟩

/-- A world in which the key is kept. -/
def world : World := { Sample.world with keys := some ⟨⟨[key]⟩, 0⟩ }

theorem read_payloadOf {scope : Json.Value} (h : scope.keepsDoubles) :
    Document.ofOctets? (Text.Utf8.encode (payloadOf scope).compact.toList) =
      some (ofFields ([("sub", .ofName "ann"), ("iss", .ofName "home"),
        ("exp", (Json.Value.number (.integer 60 (by decide))).toDocument)] ++
          ("scope", scope.toDocument) :: [("permissions", .list [.ofName "read"])])) := by
  have hkeeps : (payloadOf scope).keepsDoubles := by
    show (true && (true && (true && (scope.keepsDoubles && true)))) = true
    rw [h]
    rfl
  rw [Document.ofOctets?, Text.Utf8.decode?_encode]
  exact Json.Value.ofText?_compact hkeeps

/-- The text of the payload with the scopes in one text. -/
theorem payload_eq : Sample.payload =
    Text.Utf8.encode (payloadOf (.text "read write")).compact.toList := by
  decide +kernel

theorem verifies_joined : Signature.Rsa.verifies rsa
    (signedOctets Sample.heading Sample.payload) joinedSignature := by
  decide +kernel

theorem verifies_listed :
    Signature.Rsa.verifies rsa (signedOctets Sample.heading listed) listedSignature := by
  decide +kernel

/-- **The pair says the same** to a verifier. -/
theorem restates : (Sample.verifier none).Restates world ["read", "write"] Sample.heading
    Sample.payload joinedSignature listed listedSignature where
  payloads := ⟨_, _, _, _, .joined, .listed, payload_eq ▸ read_payloadOf rfl, read_payloadOf rfl⟩
  signatures header moment key' rsa' hheading hdecides hkey husable := by
    obtain rfl := Option.some.inj (Sample.heading_names.symm.trans hheading)
    cases hdecides with
    | kept =>
      obtain rfl := Option.some.inj hkey
      obtain rfl := Token.KeyMaterial.Usable.rsa.inj
        (Option.some.inj ((Sample.usable?_rsa modulus [3]).symm.trans husable))
      exact iff_of_true verifies_joined verifies_listed
    | fetched hnone => cases hnone

theorem exists_supports : ∃ e, (Sample.verifier none).Supports world
    (ofParts Sample.heading Sample.payload joinedSignature) "read" e ∧ e.owner = Sample.owner := by
  obtain ⟨d, hread, hattests, -⟩ := Sample.payload_attests
  obtain ⟨e, he, howner, -⟩ := Sample.exists_supports_of_signed (v := Sample.verifier none)
    verifies_joined hread hattests (Nat.le_add_left 50 10) (List.mem_singleton_self _) (by decide)
    (by decide : "read" ∈ Sample.owner.grants)
  exact ⟨e, he, howner⟩

/-- The token with the list is accepted, because the one with the text is. -/
theorem verify_listed :
    (∀ s ∈ ["read", "write"], IsWord s) ∧
      (Sample.verifier none).Restates world ["read", "write"] Sample.heading Sample.payload
        joinedSignature listed listedSignature ∧
      (((Sample.verifier none).verify (ofParts Sample.heading listed listedSignature) "read").run.run
        World.respond world).ending = .finished (.ok ⟨"ann", ["read", "write"]⟩) := by
  have hscopes : ∀ s ∈ ["read", "write"], IsWord s := by
    simp [IsWord, Text.isBlank]
  refine ⟨hscopes, restates, ?_⟩
  refine ((verify_grantsAsGiven.2 ["read", "write"] hscopes).2 _ _ _ _ _ _ _ restates _ _).1 ?_
  obtain ⟨e, he, howner⟩ := exists_supports
  refine ending_verify_iff.2 ⟨e, he, admitsAudience_of_none rfl e.document, ?_⟩
  rw [howner]
  exact ⟨rfl, Sample.isFirstMentions_grants⟩

end FormSample

end Verifier

end AccountDirectory
