import AccountDirectory.Proofs.Instance.Reads
import AccountDirectory.Proofs.Service.MutationGate
import AccountDirectory.Proofs.Service.Sessions

/-!
# The calls of an instance

Every call of an instance has the same shape in terms of the world: a dialogue with the source of
service tokens, or with the verifier, or none; and then at most one request to the directory, whose
answer decides on the outcome. `CallRun` lists the ways in which this can go, for all four operations
at once, and `callRun_of_conducts` is the inversion.

**Posed requests.** `Poses` says when a call comes to make its request, and which one: the checks are
passed and the bearer token is at hand. What a law says about requests to the directory is read off
it, operation by operation.
-/

namespace AccountDirectory.Instance

open Program (Conducts Breaks Stops Enacts)
open Gateway (SendRun)
open Lookup (Spells)
open Service (Presents firstRefusal? searchTerm)

/-! ### Requests to the directory -/

/-- A request to the directory, as it is to be built. -/
structure Draft where
  method : Http.Method
  address : String
  token : String
  body : Option Json.Value

/-- The request that is sent for a draft, if it can be sent. -/
def Draft.build (draft : Draft) : Except Http.TransportFailure Http.Request :=
  Http.Request.build draft.method draft.address (some draft.token) draft.body

/-- The ways of the request for a draft. -/
abbrev Draft.SendRun (draft : Draft) :
    List Procedure.Exchange → Program.Ending (Except GatewayError String) → Prop :=
  Gateway.SendRun draft.method draft.address draft.token draft.body

/-- **A call comes to make its request** after this dialogue: nothing refuses it, and it has the
bearer token. A read has its own or a service token; an update has its own, which was verified. -/
inductive Poses (i : Instance) : Service.Call → List Procedure.Exchange → Draft → Prop
  | get {user token d} (hr : firstRefusal? (i.service.getChecks user) = none)
    (hb : Bears i user.token token d) :
    Poses i (.getUser user) d ⟨.get, i.gateway.userAddress user.userId, token, none⟩
  | search {user name criteria token d} (hc : Criteria.ofName? name = some criteria)
    (hr : firstRefusal? (i.service.searchChecks criteria (searchTerm user criteria)) = none)
    (hb : Bears i user.token token d) :
    Poses i (.searchUser user name) d
      ⟨.get, i.gateway.searchAddress criteria (searchTerm user criteria), token, none⟩
  | update {user token claims metadata d} (hp : Presents user token)
    (hv : Conducts (i.verifier.verify token updateScope).run d (.finished (.ok claims)))
    (hd : ¬Text.isBlankText i.service.domain) (hm : user.metadata = some metadata) :
    Poses i (.updateUser user) d
      ⟨.patch, i.gateway.userAddress claims.subject, token, some (Gateway.patchBody metadata)⟩

variable {i : Instance}

/-- A read comes to one bearer token. -/
theorem Bears.unique {own : Option String} {token token' : String}
    {d d₁ d₂ : List Procedure.Exchange} (h : Bears i own token d₁) (h' : Bears i own token' d₂)
    (hd₁ : d₁ <+: d) (hd₂ : d₂ <+: d) : d₂ = d₁ ∧ token' = token := by
  cases h with
  | own hk =>
    cases h' with
    | own hk' => exact ⟨rfl, Option.some.inj (hk'.symm.trans hk)⟩
    | service hn => cases hn.symm.trans hk
  | service hn hd =>
    cases h' with
    | own hk' => cases hn.symm.trans hk'
    | service hn' hd' =>
      obtain ⟨rfl, he⟩ := hd.unique hd' hd₁ hd₂
      exact ⟨rfl, Except.ok.inj (Program.Ending.finished.inj he)⟩

/-! ### Outcomes -/

/-- What an update makes of the answer of the directory. -/
def updateResult : Except GatewayError (Option Metadata) → Except DirectoryError User
  | .error failure => .error (.unexpected "failed to update user" (some (.gateway failure)))
  | .ok stored => .ok { metadata := stored }

/-- What an update makes of the body of the answer. -/
def updateOutcome (body : Except GatewayError String) : Except DirectoryError User :=
  updateResult (Option.join <$> (body >>= Gateway.decodeBody Gateway.storedMetadata))

/-- **What a call makes of the body** of the answer to its request. -/
inductive Concludes :
    Service.Call → (Except GatewayError String → Except DirectoryError User) → Prop
  | get (user) : Concludes (.getUser user) getOutcome
  | search {user name criteria} (hc : Criteria.ofName? name = some criteria) :
    Concludes (.searchUser user name) (foundOutcome criteria (searchTerm user criteria))
  | update (user) : Concludes (.updateUser user) updateOutcome

/-! ### The ways of a call -/

/-- **A call has a token verified** for a scope. -/
inductive Verifies : Service.Call → String → String → Prop
  | lookup {input token} (hs : Spells input token) : Verifies (.lookup input) token readScope
  | update {user token} (hp : Presents user token) : Verifies (.updateUser user) token updateScope

theorem Verifies.unique {call : Service.Call} {token token' scope scope' : String}
    (h : Verifies call token scope) (h' : Verifies call token' scope') :
    token = token' ∧ scope = scope' := by
  cases h with
  | lookup hs =>
    cases h' with
    | lookup hs' => exact ⟨Service.spells_unique hs' hs, rfl⟩
  | update hp =>
    cases h' with
    | update hp' => exact ⟨hp'.unique hp, rfl⟩

/-- **The ways of a call.** -/
inductive CallRun (i : Instance) (call : Service.Call) :
    List Procedure.Exchange → Service.Ending → Prop
  /-- Nobody is asked. -/
  | silent {outcome} (hv : ∀ token scope, ¬Verifies call token scope)
    (hp : ∀ d draft, ¬Poses i call d draft) : CallRun i call [] (.finished outcome)
  /-- The source of service tokens stops or fails. -/
  | unserved {d e' e} (hv : ∀ token scope, ¬Verifies call token scope)
    (hd : Conducts i.tokens.getToken d e')
    (he : Stops e' e ∨ ∃ failure, e' = .finished (.error failure) ∧
      e = .finished
        (.error (.unexpected "failed to get M2M token" (some (.credential failure))))) :
    CallRun i call d e
  /-- The verifier stops or refuses. -/
  | unverified {token scope d e' e} (hv : Verifies call token scope)
    (hd : Conducts (i.verifier.verify token scope).run d e')
    (he : Stops e' e ∨ ∃ failure, e' = .finished (.error failure) ∧
      e = .finished (.error (.token failure))) : CallRun i call d e
  /-- The verifier accepts, and no request is made. -/
  | verified {token scope claims d outcome} (hv : Verifies call token scope)
    (hd : Conducts (i.verifier.verify token scope).run d (.finished (.ok claims)))
    (hp : ∀ d draft, ¬Poses i call d draft) : CallRun i call d (.finished outcome)
  /-- The request is made. -/
  | posed {draft outcome d₁ d₂ e} (hp : Poses i call d₁ draft) (hs : draft.SendRun d₂ e)
    (ho : Concludes call outcome) : CallRun i call (d₁ ++ d₂) (e.map outcome)

variable {user : User} {call : Service.Call} {d : List Procedure.Exchange}
  {e : Service.Ending}

/-- The ways of a read are ways of a call, if its request is the one that the call poses. -/
theorem ReadRun.callRun {own : Option String} {address : String}
    {outcome : Except GatewayError String → Except DirectoryError User}
    (h : ReadRun i own address outcome d e) (hv : ∀ token scope, ¬Verifies call token scope)
    (hp : ∀ token d, Bears i own token d → Poses i call d ⟨.get, address, token, none⟩)
    (ho : Concludes call outcome) : CallRun i call d e := by
  cases h with
  | stopped _ hd hs => exact .unserved hv hd (.inl hs)
  | unserved _ hd => exact .unserved hv hd (.inr ⟨_, rfl, rfl⟩)
  | asked hb hs => exact .posed (hp _ _ hb) hs ho

theorem callRun_of_getUser (h : Conducts (i.program (.getUser user)) d e) :
    CallRun i (.getUser user) d e := by
  have hv : ∀ token scope, ¬Verifies (.getUser user) token scope := nofun
  obtain ⟨failure, hr, rfl, rfl⟩ | ⟨hr, hrun⟩ := refused_or_readRun_of_getUser h
  · refine .silent hv fun d draft hp ↦ ?_
    cases hp with
    | get hn => cases hr.symm.trans hn
  · exact hrun.callRun hv (fun token d hb ↦ .get hr hb) (.get user)

theorem callRun_of_searchUser {name : String}
    (h : Conducts (i.program (.searchUser user name)) d e) :
    CallRun i (.searchUser user name) d e := by
  have hv : ∀ token scope, ¬Verifies (.searchUser user name) token scope := nofun
  cases hc : Criteria.ofName? name with
  | none =>
    obtain ⟨D, hD, hd⟩ := Program.conducts_expand_iff.1 h
    obtain ⟨rfl, rfl⟩ := Service.unknown_of_searchUser hc hD
    obtain rfl := Program.enacts_nil_iff.1 hd
    refine .silent hv fun d draft hp ↦ ?_
    cases hp with
    | search hsome => cases hc.symm.trans hsome
  | some criteria =>
    obtain ⟨failure, hr, rfl, rfl⟩ | ⟨hr, hrun⟩ := refused_or_readRun_of_searchUser hc h
    · refine .silent hv fun d draft hp ↦ ?_
      cases hp with
      | search hc' hn =>
        obtain rfl := Option.some.inj (hc.symm.trans hc')
        cases hr.symm.trans hn
    · exact hrun.callRun hv (fun token d hb ↦ .search hc hr hb) (.search hc)

theorem callRun_of_lookup {input : String} (h : Conducts (i.program (.lookup input)) d e) :
    CallRun i (.lookup input) d e := by
  have hp : ∀ d draft, ¬Poses i (.lookup input) d draft := nofun
  have hsilent : ∀ outcome, (∀ token, ¬Spells input token) →
      CallRun i (.lookup input) [] (.finished outcome) := by
    refine fun outcome hs ↦ .silent (fun token scope hv ↦ ?_) hp
    cases hv with
    | lookup h => exact hs token h
  obtain ⟨D, hD, hd⟩ := Program.conducts_expand_iff.1 h
  cases Service.lookupRun_of_conducts hD with
  | blank hb =>
    obtain rfl := Program.enacts_nil_iff.1 hd
    have hnone : Lookup.classify input = none := Lookup.classify_eq_none_iff.2 hb
    exact hsilent _ fun token hs ↦ nomatch hnone.symm.trans (Lookup.classify_eq_token_iff.2 hs)
  | subject hc | username hc =>
    obtain rfl := Program.enacts_nil_iff.1 hd
    exact hsilent _ fun token hs ↦ nomatch hc.symm.trans (Lookup.classify_eq_token_iff.2 hs)
  | unverified hs hr =>
    obtain ⟨-, e', hv, he⟩ := hd.of_breaks hr
    exact .unverified (.lookup hs) hv (.inl he)
  | refused hs =>
    exact .unverified (.lookup hs) (conducts_of_enacts_answer hd) (.inr ⟨_, rfl, rfl⟩)
  | verified hs => exact .verified (.lookup hs) (conducts_of_enacts_answer hd) hp

/-- An update without a domain or without metadata makes no request. -/
theorem not_poses_of_incomplete
    (h : Text.isBlankText i.service.domain ∨ user.metadata = none) (d : List Procedure.Exchange)
    (draft : Draft) : ¬Poses i (.updateUser user) d draft := by
  intro hp
  cases hp with
  | update _ _ hd hm =>
    obtain hblank | hnone := h
    · exact hd hblank
    · cases hnone.symm.trans hm

/-- The result of an update whose request was answered is decided by the body that came with it. -/
theorem CallRun.of_answered {draft : Draft} {d₁ d₂ : List Procedure.Exchange}
    {es : Program.Ending (Except GatewayError String)}
    {stored : Except GatewayError (Option Metadata)} (hp : Poses i (.updateUser user) d₁ draft)
    (hs : draft.SendRun d₂ es)
    (he : .finished stored =
      es.map fun body ↦ Option.join <$> (body >>= Gateway.decodeBody Gateway.storedMetadata)) :
    CallRun i (.updateUser user) (d₁ ++ d₂) (.finished (updateResult stored)) := by
  cases es with
  | finished body =>
    obtain rfl := Program.Ending.finished.inj he
    exact .posed hp hs (.update user)
  | interrupted | stalled => cases he

theorem callRun_of_updateUser (h : Conducts (i.program (.updateUser user)) d e) :
    CallRun i (.updateUser user) d e := by
  obtain ⟨D, hD, hd⟩ := Program.conducts_expand_iff.1 h
  cases Service.updateRun_of_conducts hD with
  | missing hmissing =>
    obtain rfl := Program.enacts_nil_iff.1 hd
    refine .silent (fun token scope hv ↦ ?_) fun d draft hp ↦ ?_
    · cases hv with
      | update hp => exact hmissing token hp
    · cases hp with
      | update hp => exact hmissing _ hp
  | unverified hp hr =>
    obtain ⟨-, e', hv, he⟩ := hd.of_breaks hr
    exact .unverified (.update hp) hv (.inl he)
  | refused hp =>
    exact .unverified (.update hp) (conducts_of_enacts_answer hd) (.inr ⟨_, rfl, rfl⟩)
  | noDomain hp hdomain =>
    exact .verified (.update hp) (conducts_of_enacts_answer hd)
      (not_poses_of_incomplete (.inl hdomain))
  | noMetadata hp _ hm =>
    exact .verified (.update hp) (conducts_of_enacts_answer hd) (not_poses_of_incomplete (.inr hm))
  | unpatched hp hdomain hm hr =>
    obtain ⟨d₁, d₂, rfl, hv, hd⟩ := Program.enacts_answer_cons_iff.1 hd
    obtain ⟨-, e', hc, hs⟩ := hd.of_breaks hr
    obtain ⟨es, hsent, rfl⟩ := Gateway.sendRun_of_patchMetadata hc
    rw [← hs.of_map.map_eq updateOutcome]
    exact .posed (.update hp hv hdomain hm) hsent (.update user)
  | failed hp hdomain hm | updated hp hdomain hm =>
    obtain ⟨d₁, d₂, rfl, hv, hd⟩ := Program.enacts_answer_cons_iff.1 hd
    obtain ⟨es, hsent, he⟩ := Gateway.sendRun_of_patchMetadata (conducts_of_enacts_answer hd)
    exact .of_answered (.update hp hv hdomain hm) hsent he

/-- **Every run of a call takes one of these ways.** -/
theorem callRun_of_conducts (h : Conducts (i.program call) d e) : CallRun i call d e := by
  cases call with
  | getUser => exact callRun_of_getUser h
  | searchUser => exact callRun_of_searchUser h
  | lookup => exact callRun_of_lookup h
  | updateUser => exact callRun_of_updateUser h

/-! ### The request of a call -/

variable {draft : Draft} {es : Program.Ending (Except GatewayError String)}

/-- A request is all that is sent for a draft. -/
theorem Draft.eq_singleton {x : Procedure.Exchange} (h : draft.SendRun d es) (hx : x ∈ d) :
    d = [x] := by
  cases h with
  | unbuilt => exact absurd hx List.not_mem_nil
  | unanswered | failed | refused | accepted => rw [List.mem_singleton.1 hx]

/-- It is the request that the draft is built into. -/
theorem Draft.build_eq_ok {request : Http.Request}
    {r : Program.Reply (Effect.Answer (.exchange request))}
    (h : draft.SendRun [⟨.exchange request, r⟩] es) : draft.build = .ok request := by
  cases h with
  | unanswered hbuild | failed hbuild | refused hbuild | accepted hbuild => exact hbuild

/-- Before the request there are those for a service token or for the key set only. -/
theorem Poses.isAuxiliary (h : Poses i call d draft) :
    ∀ request ∈ Procedure.sent d, i.IsAuxiliary request := by
  intro request hr
  cases h with
  | get _ hb | search _ _ hb => exact .inl (hb.request_of_mem_sent hr)
  | update _ hv => exact .inr (Procedure.eq_of_mem_sent hv (i.verifier.verify_obeys _ _) hr)

/-- **Every other request is the one that the call has come to**, and its fate decides on the
outcome. -/
theorem CallRun.exists_sendRun {request : Http.Request}
    {r : Program.Reply (Effect.Answer (.exchange request))} (h : CallRun i call d e)
    (hx : ⟨.exchange request, r⟩ ∈ d) (hdirect : ¬i.IsAuxiliary request) :
    ∃ (d₁ : List Procedure.Exchange) (draft : Draft)
      (es : Program.Ending (Except GatewayError String))
      (outcome : Except GatewayError String → Except DirectoryError User),
        Poses i call d₁ draft ∧ draft.SendRun [⟨.exchange request, r⟩] es ∧
          Concludes call outcome ∧ e = es.map outcome := by
  have hsent : request ∈ Procedure.sent d := Procedure.mem_sent_iff.2 ⟨r, hx⟩
  cases h with
  | silent => exact absurd hx List.not_mem_nil
  | unserved _ hd =>
    exact absurd (.inl (Procedure.eq_of_mem_sent hd i.tokens.getToken_obeys hsent)) hdirect
  | unverified _ hd | verified _ hd =>
    exact absurd (.inr (Procedure.eq_of_mem_sent hd (i.verifier.verify_obeys _ _) hsent)) hdirect
  | @posed draft outcome d₁ d₂ es hp hs ho =>
    obtain hx | hx := List.mem_append.1 hx
    · exact absurd (hp.isAuxiliary request (Procedure.mem_sent_iff.2 ⟨r, hx⟩)) hdirect
    · rw [Draft.eq_singleton hs hx] at hs
      exact ⟨d₁, draft, es, outcome, hp, hs, ho, rfl⟩

end AccountDirectory.Instance
