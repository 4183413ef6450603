import AccountDirectory.Proofs.CommandLine.Resolve
import AccountDirectory.Proofs.Gateway.UserAddress
import AccountDirectory.Proofs.Instance.Failures
import AccountDirectory.Proofs.Instance.Updates
import AccountDirectory.Proofs.Verifier.Acceptance

/-!
# Metadata from the command line to the output

The command `update` reads metadata from a text and makes one update with it, and what the update
returns is written for its caller. `updates_carryMetadata` puts the three together: the metadata that
the text spells is what the directory is sent, and the metadata that the directory reports is what the
output holds, whatever else there is in the answer.

Values are compared without a limit on nesting. The limit of a reader shows in two places only: a text
or an answer that is nested deeper is refused (`not_every_answer_carried`). What is written may be
nested deeper than any reader here allows.
-/

namespace AccountDirectory.CommandLine

open Json (Document)
open Json.Document (ofFields under)
open Program (Conducts)
open Instance (CarriesMetadata Changed Poses)

/-! ### The output for a user -/

variable {u : User} {m : Metadata}

/-- The members of the output. -/
theorem ofText?_report (h : ∀ m, u.metadata = some m → m.toJson.keepsDoubles) :
    Document.ofText? (report u) = some (ofFields
      ([("user_id", .text (some u.userId)), ("username", .text (some u.username)),
        ("primary_email", .text (some u.primaryEmail)), ("sub", .text (some u.sub))] ++
      (u.metadata.map fun m ↦ ("user_metadata", m.toJson.toDocument)).toList)) := by
  have hkeeps : u.toJson.keepsDoubles := by
    rw [User.toJson]
    cases hm : u.metadata with
    | none => rfl
    | some m => exact Bool.and_eq_true_iff.2 ⟨h m hm, rfl⟩
  rw [report, Json.Value.ofText?_pretty hkeeps (by decide), User.toJson,
    Json.Value.toDocument_object]
  cases u.metadata <;> rfl

/-- **The output for a user holds the metadata of the user.** -/
theorem holdsMetadata_report (hm : u.metadata = some m) (h : m.toJson.keepsDoubles) :
    HoldsMetadata (report u) m m.toJson.toDocument.depth := by
  have htext := ofText?_report (u := u) fun m' hm' ↦ Option.some.inj (hm.symm.trans hm') ▸ h
  rw [hm] at htext
  exact ⟨_, _, htext, rfl, Metadata.value?_toDocument h, rfl⟩

/-- Without metadata, the output has no member for it. -/
theorem lacksMetadata_report (hm : u.metadata = none) : LacksMetadata (report u) := by
  have htext := ofText?_report (u := u) fun m' hm' ↦ nomatch hm.symm.trans hm'
  rw [hm] at htext
  exact .absent htext rfl

/-! ### The command -/

/-- The metadata that is accepted is the value that its text spells. -/
theorem value?_of_accepted {text : String}
    (h : (Document.ofText? text).bind (Metadata.ofDocument? Json.nestingLimit) = some m) :
    (Document.ofText? text).bind Document.value? = some m.toJson := by
  obtain ⟨d, hd, hm⟩ := Option.bind_eq_some_iff.1 h
  rw [hd, Option.bind_some]
  exact (Json.Value.ofDocument?_eq_some_iff.1 (Metadata.ofDocument?_eq_some_iff.1 hm)).2

/-- With accepted metadata, the command is one update. -/
theorem program_update {i : Instance} {token text : String}
    (h : (Document.ofText? text).bind (Metadata.ofDocument? Json.nestingLimit) = some m) :
    (Command.update token text).program i =
      clientCall i (.updateUser { token := some token, metadata := some m }) := by
  rw [Command.program, h]

section Runs

variable {σ : Type} (i : Instance) (respond : σ → (op : Effect) → Program.Reply op.Answer × σ)
  (s : σ)

/-- A client that updates a user. -/
theorem carriesMetadata_call {user : User} (hm : user.metadata = some m) :
    CarriesMetadata m ((i.program (.updateUser user)).dialogue respond s)
      (Client.callProgram false "update_user" (i.program (.updateUser user)) respond s).outcome := by
  have hrun := Instance.callRun_of_conducts
    (Program.conducts_run respond (i.program (.updateUser user)) s)
  have houtcome : (Client.callProgram false "update_user" (i.program (.updateUser user)) respond
      s).outcome = Instance.clientOutcome ((i.program (.updateUser user)).run respond s).ending :=
    Client.Result.outcome_ofRun
  rw [houtcome]
  refine hrun.carriesMetadata hm (fun result he ↦ ?_) fun failure he ↦ ?_
  · rw [he]
    rfl
  · rw [he]
    exact ⟨_, rfl⟩

/-- A command that makes an update. -/
theorem carriesMetadata_clientCall {user : User} (hm : user.metadata = some m) :
    CarriesMetadata m ((clientCall i (.updateUser user)).dialogue respond s)
      ((clientCall i (.updateUser user)).run respond s).result? := by
  obtain ⟨e, hconducts, hending⟩ :=
    conducts_clientCall (Program.conducts_run respond (clientCall i (.updateUser user)) s)
  refine (Instance.callRun_of_conducts hconducts).carriesMetadata hm (fun result he ↦ ?_)
    fun failure he ↦ ?_
  · rw [Program.Run.result?, hending, he]
    rfl
  · rw [Program.Run.result?, hending, he]
    exact ⟨_, rfl⟩

end Runs

/-- **Metadata is carried as it is**: by every update of every instance, whatever the world answers;
from the text given to the command on; and into the output for the user. -/
theorem updates_carryMetadata {σ : Type} (i : Instance) (m : Metadata)
    (respond : σ → (op : Effect) → Program.Reply op.Answer × σ) (s : σ) :
    (∀ user : User, user.metadata = some m →
      let update := i.program (.updateUser user)
      CarriesMetadata m (update.dialogue respond s)
        (Client.callProgram false "update_user" update respond s).outcome) ∧
    (∀ token text : String,
      (Document.ofText? text).bind (Metadata.ofDocument? Json.nestingLimit) = some m →
        (Document.ofText? text).bind Document.value? = some m.toJson ∧
          let update := (Command.update token text).program i
          CarriesMetadata m (update.dialogue respond s) (update.run respond s).result?) ∧
    ∀ user : User,
      (user.metadata = some m → m.toJson.keepsDoubles →
        ∃ depth, HoldsMetadata (report user) m depth) ∧
      (user.metadata = none → LacksMetadata (report user)) := by
  refine ⟨fun user hm ↦ carriesMetadata_call i respond s hm,
    fun token text haccepted ↦ ⟨value?_of_accepted haccepted, ?_⟩,
    fun user ↦ ⟨fun hm hkeeps ↦ ⟨_, holdsMetadata_report hm hkeeps⟩, lacksMetadata_report⟩⟩
  rw [program_update haccepted]
  exact carriesMetadata_clientCall i respond s rfl

/-! ### An update that changes something -/

namespace Sample

open Text.Base64Url (encode)

/-- The payload of a token that grants the scope of updates. -/
def payload : List UInt8 :=
  Text.Utf8.encode "\x7b\"sub\":\"ann\",\"iss\":\"http://tenant.test/\",\"exp\":60,".toList ++
    Text.Utf8.encode "\"scope\":\"update:current_user_metadata\"\x7d".toList

/-- The modulus of the key `a` of the tenant; its public exponent is 3. -/
def modulus : List UInt8 :=
  [0xd6, 0xba, 0x68, 0x1e, 0x1c, 0x41, 0x52, 0x04, 0xf2, 0xdb, 0x7f, 0x0e, 0x2f, 0x29, 0x52, 0xa1,
    0x0d, 0xa6, 0xbf, 0xc9, 0x33, 0x5a, 0x76, 0x17, 0xae, 0x5c, 0x73, 0x8b, 0x33, 0x3f, 0x94, 0xe3,
    0x06, 0xb0, 0x87, 0x5e, 0xd6, 0x9e, 0x59, 0xe2, 0x0f, 0x70, 0xde, 0xae, 0x97, 0xdf, 0x14, 0x1f,
    0x2b, 0x95, 0x37, 0x45, 0xe4, 0x24, 0x2c, 0x4c, 0x5d, 0x27, 0xdc, 0xf8, 0xb6, 0xe0, 0xc6, 0xc7]

/-- The signature of the header and the payload. -/
def signature : List UInt8 :=
  [0x96, 0x34, 0x6d, 0x5e, 0xfc, 0x4b, 0xa9, 0x1f, 0x50, 0x51, 0x3b, 0x94, 0x17, 0x39, 0x03, 0xc9,
    0x71, 0x1d, 0x9b, 0x07, 0xc2, 0xf7, 0xac, 0x26, 0xf3, 0x1b, 0xbd, 0x26, 0x05, 0xea, 0x84, 0x0f,
    0x14, 0x62, 0xaf, 0xa6, 0xfe, 0x0c, 0x34, 0x04, 0x3b, 0x02, 0x76, 0x10, 0x92, 0xb2, 0xd6, 0x27,
    0x7c, 0x38, 0x8e, 0x3e, 0x94, 0x97, 0xca, 0x16, 0xea, 0x80, 0x03, 0xf4, 0x31, 0x38, 0x64, 0xe0]

/-- The token. -/
def token : String :=
  String.ofList
    (encode AccountDirectory.Sample.heading ++ '.' :: (encode payload ++ '.' :: encode signature))

/-- The key of the tenant, -/
def rsa : Signature.Rsa.PublicKey :=
  ⟨Signature.Rsa.natural modulus, Signature.Rsa.natural [3]⟩

/-- and as its key set publishes it. -/
def key : Token.SigningKey :=
  ⟨some "a", .rsa (String.ofList (encode modulus)) (String.ofList (encode [3]))⟩

/-- A world in which the key is kept. -/
def keyed : World := { AccountDirectory.Sample.world with keys := some ⟨⟨[key]⟩, 0⟩ }

/-- The owner of the token. -/
def owner : Token.OwnerClaims := ⟨"ann", some (.words "update:current_user_metadata"), []⟩

theorem payload_attests : ∃ d, Document.ofOctets? payload = some d ∧
    Token.Attests d owner 60 ["http://tenant.test/"] := by
  have ho : (Document.ofOctets? payload).bind
      (Token.OwnerClaims.ofDocument? Json.nestingLimit) = some owner := by decide +kernel
  have hv : (Document.ofOctets? payload).bind
      (Token.ValidityClaims.ofDocument? Json.nestingLimit) =
        some ⟨some 60, some "ann", some ["http://tenant.test/"], none⟩ := by decide +kernel
  obtain ⟨d, hd, ho⟩ := Option.bind_eq_some_iff.1 ho
  rw [hd] at hv
  exact ⟨d, hd, Token.attests_iff.2 ⟨ho, _, hv, rfl, rfl, rfl⟩⟩

/-- The token is supported. -/
theorem exists_supports :
    ∃ e, tenant.verifier.Supports keyed token updateScope e ∧ e.owner = owner := by
  obtain ⟨d, hread, hattests⟩ := payload_attests
  have hsigned : Signature.Rsa.verifies rsa
      (Text.Utf8.encode (encode AccountDirectory.Sample.heading ++ '.' :: encode payload))
      signature := by decide +kernel
  obtain ⟨e, he, howner, -⟩ := AccountDirectory.Sample.exists_supports_of_signed
    (v := tenant.verifier) hsigned hread hattests (Nat.le_add_left 50 70)
    (List.mem_singleton_self _) (by decide) (by decide : updateScope ∈ owner.grants)
  exact ⟨e, he, howner⟩

/-- The verifier of the tenant accepts the token for updates. -/
theorem conducts_verify_token :
    Conducts (tenant.verifier.verify token updateScope).run
      ((tenant.verifier.verify token updateScope).run.dialogue World.respond keyed)
      (.finished (.ok ⟨"ann", [updateScope]⟩)) := by
  obtain ⟨e, he, howner⟩ := exists_supports
  have hfirst : Claims.IsFirstMentions owner.grants [updateScope] :=
    Claims.isFirstMentions_iff.2 (by decide)
  have hclaims : (⟨"ann", [updateScope]⟩ : Claims) = Verifier.claimsOf e.owner :=
    Verifier.eq_claimsOf_iff.2 (howner.symm ▸ ⟨rfl, hfirst⟩)
  have hyields := Verifier.yields_verify_iff_supports.2
    ⟨e, he, Verifier.admitsAudience_of_none rfl _, hclaims, rfl⟩
  exact hyields.1 ▸ Program.conducts_run World.respond _ keyed

/-- A record with the token and metadata without keys. -/
def record : User := { token := some token, metadata := some .empty }

/-- The change that the record leads to can be sent. -/
theorem exists_build : ∃ request, Http.Request.build .patch (tenant.gateway.userAddress "ann")
    (some token) (some (Gateway.patchBody .empty)) = .ok request ∧ request.method = .patch := by
  have hsent : (Http.Url.parse? (tenant.gateway.userAddress "ann")).any fun url ↦
      (url.authority.bind (·.user)).isNone && url.isReachable := by decide +kernel
  have htoken : token.toList.all Http.isHeaderChar := by
    rw [token, String.toList_ofList]
    decide +kernel
  obtain ⟨url, hurl, hplain⟩ := (Option.any_eq_true _ _).1 hsent
  obtain ⟨huser, hreach⟩ := Bool.and_eq_true_iff.1 hplain
  exact Http.Request.exists_build hurl (Option.isNone_iff_eq_none.1 huser) hreach htoken

/-- An answer that reports metadata. -/
def answer (r : Metadata) : Http.Response :=
  ⟨200, Text.Utf8.encode (Gateway.patchBody r).compact.toList⟩

theorem holdsMetadata_answer {r : Metadata} (h : r.toJson.keepsDoubles) :
    HoldsMetadata (answer r).text r r.toJson.toDocument.depth := by
  have htext : (answer r).text = (Gateway.patchBody r).compact := by
    rw [answer, Http.Response.text, Text.Utf8.decodeLossy_encode, String.ofList_toList]
  rw [htext]
  exact ⟨_, _, Gateway.ofText?_patchBody h, rfl, Metadata.value?_toDocument h, rfl⟩

/-- **The tenant can be changed** by the record, and report any metadata. -/
theorem exists_changed (r : Metadata) : ∃ script : List Procedure.Exchange,
    Changed ((tenant.program (.updateUser record)).dialogue Program.replay script) (answer r) := by
  obtain ⟨request, hbuild, hmethod⟩ := exists_build
  have hpresents : Service.Presents record token := by
    refine ⟨rfl, ?_⟩
    rw [Text.isBlankText, token, String.toList_ofList]
    decide +kernel
  have hposes : Poses tenant (.updateUser record) _ _ :=
    .update hpresents conducts_verify_token (by decide) rfl
  have hsuccess : Http.isSuccess (answer r).status := rfl
  have hreplayed := (Instance.conducts_of_poses hposes hbuild hsuccess).run_replay.1
  refine ⟨(tenant.verifier.verify token updateScope).run.dialogue World.respond keyed ++
    [⟨.exchange request, .answer (.ok (answer r))⟩], request, ?_, hmethod, rfl⟩
  rw [hreplayed]
  exact List.mem_append_right _ (List.mem_singleton_self _)

/-- Objects in one another, `n` of them in an outermost one. -/
def nest : Nat → List (String × Json.Value)
  | 0 => []
  | n + 1 => [("a", .object (nest n))]

/-- Metadata of this form. -/
def nested (n : Nat) : Metadata where
  members := nest n
  canonical := by
    induction n with
    | zero => rfl
    | succ n ih =>
      show ((Json.Value.object (nest n)).isCanonical && true) = true
      rw [ih, Bool.and_true]

theorem keepsDoubles_nested (n : Nat) : (nested n).toJson.keepsDoubles := by
  show (Json.Value.object (nest n)).keepsDoubles
  induction n with
  | zero => rfl
  | succ n ih => exact Bool.and_eq_true_iff.2 ⟨ih, rfl⟩

theorem depth_nested (n : Nat) : (nested n).toJson.toDocument.depth = n + 1 := by
  show (Json.Value.object (nest n)).toDocument.depth = n + 1
  induction n with
  | zero => rfl
  | succ n ih =>
    show max (Json.Value.object (nest n)).toDocument.depth 0 + 1 = n + 1 + 1
    rw [ih, Nat.max_zero]

end Sample

/-- An update that the directory answers with other metadata, nested as deep as can be read. -/
theorem update_carried_deep : ∃ script : List Procedure.Exchange,
    Sample.record.metadata = some .empty ∧
      Changed ((Sample.tenant.program (.updateUser Sample.record)).dialogue Program.replay script)
        (Sample.answer (Sample.nested 125)) ∧
      (Client.callProgram false "update_user" (Sample.tenant.program (.updateUser Sample.record))
        Program.replay script).outcome = some (.ok { metadata := some (Sample.nested 125) }) := by
  obtain ⟨script, hchanged⟩ := Sample.exists_changed (Sample.nested 125)
  have hholds := Sample.holdsMetadata_answer (Sample.keepsDoubles_nested 125)
  have hcarries :=
    (updates_carryMetadata Sample.tenant .empty Program.replay script).1 Sample.record rfl
  refine ⟨script, rfl, hchanged, hcarries.returned _ _ _ hchanged hholds ?_⟩
  rw [Sample.depth_nested]
  decide

/-- **Not every answer is carried**: metadata nested one level deeper fails the update. -/
theorem not_every_answer_carried :
    ¬∀ (settings : Settings) (i : Instance) (user : User) (m r : Metadata) (depth : Nat)
      (response : Http.Response) (σ : Type)
      (respond : σ → (op : Effect) → Program.Reply op.Answer × σ) (s : σ),
      (Instance.build settings).2 = .ok i → user.metadata = some m →
        Changed ((i.program (.updateUser user)).dialogue respond s) response →
          HoldsMetadata response.text r depth →
            (Client.callProgram false "update_user" (i.program (.updateUser user)) respond
              s).outcome = some (.ok { metadata := some r }) := by
  intro hcarried
  obtain ⟨script, hchanged⟩ := Sample.exists_changed (Sample.nested 126)
  have hbuild : (Instance.build Sample.settings).2 = .ok Sample.tenant := by rfl
  have hholds := Sample.holdsMetadata_answer (Sample.keepsDoubles_nested 126)
  have hdeep : Json.nestingLimit ≤ (Sample.nested 126).toJson.toDocument.depth := by
    rw [Sample.depth_nested]
    decide
  obtain ⟨failure, hfailed⟩ :=
    (carriesMetadata_call Sample.tenant Program.replay script rfl).unread _ _ _ hchanged hholds hdeep
  have hreturned := hcarried Sample.settings Sample.tenant Sample.record .empty (Sample.nested 126) _ _
    _ Program.replay script hbuild rfl hchanged hholds
  cases hfailed.symm.trans hreturned

end AccountDirectory.CommandLine
