import AccountDirectory.Proofs.Instance.Build
import AccountDirectory.Proofs.Requests
import AccountDirectory.Proofs.Service.CheckedReads

/-!
# The reads of an instance

An instance does what its service asks through its adapters, so the dialogue of a call with the
world is an enacted dialogue of the service. `ReadRun` lists the ways of a read in terms of the
world: the bearer token is obtained, if the caller brings none, and then one request is made, whose
outcome is the outcome of the read.

**What was checked before.** A read by id refuses a blank id, a search refuses a blank term, and
both refuse a blank domain. A read that its checks refuse does not get to the world, so the ways of a
refused input are not among those of `ReadRun`. An instance that was built has a domain
(`not_isBlankText_domain_of_build`), so the reads that follow a lookup pass all three checks.
-/

namespace AccountDirectory.Instance

open Program (Conducts Breaks Stops Enacts)
open Gateway (SendRun)

variable {i : Instance}

/-! ### The bearer token of a read -/

/-- **How a read comes to its bearer token**: it is the caller's own, or the source of service
tokens yields it. -/
inductive Bears (i : Instance) (own : Option String) : String → List Procedure.Exchange → Prop
  | own {token} (h : own.filter (!·.isEmpty) = some token) : Bears i own token []
  | service {token d} (h : own.filter (!·.isEmpty) = none)
    (hd : Conducts i.tokens.getToken d (.finished (.ok token))) : Bears i own token d

/-- **The ways of a read** of the directory at an address, with the caller's own token if there is
one. What the request ends with decides on the outcome. -/
inductive ReadRun (i : Instance) (own : Option String) (address : String)
    (outcome : Except GatewayError String → Except DirectoryError User) :
    List Procedure.Exchange → Service.Ending → Prop
  | stopped {d e' e} (hn : own.filter (!·.isEmpty) = none) (hd : Conducts i.tokens.getToken d e')
    (hs : Stops e' e) : ReadRun i own address outcome d e
  | unserved {d failure} (hn : own.filter (!·.isEmpty) = none)
    (hd : Conducts i.tokens.getToken d (.finished (.error failure))) :
    ReadRun i own address outcome d
      (.finished (.error (.unexpected "failed to get M2M token" (some (.credential failure)))))
  | asked {token d₁ d₂ e} (hb : Bears i own token d₁)
    (hs : SendRun .get address token none d₂ e) :
    ReadRun i own address outcome (d₁ ++ d₂) (e.map outcome)

/-- What the service asked to come to its bearer token was enacted first. -/
theorem bears_of_enacts {user : User} {token : String} {asked D : List Service.Exchange}
    {d : List Procedure.Exchange} (hb : Service.Bears user token asked)
    (h : Enacts i.adapter (asked ++ D) d) :
    ∃ d₁ d₂, d = d₁ ++ d₂ ∧ Bears i user.token token d₁ ∧ Enacts i.adapter D d₂ := by
  cases hb with
  | own hk => exact ⟨[], d, rfl, .own hk, h⟩
  | service hn =>
    obtain ⟨d₁, d₂, rfl, hd, h⟩ := Program.enacts_answer_cons_iff.1 h
    exact ⟨d₁, d₂, rfl, .service hn hd, h⟩

/-- The last exchange that the service had is enacted by one run of its adapter. -/
theorem conducts_of_enacts_answer {op : Collaborator} {a : op.Answer}
    {d : List Procedure.Exchange} (h : Enacts i.adapter [⟨op, .answer a⟩] d) :
    Conducts (i.adapter op) d (.finished a) := by
  obtain ⟨d₁, d₂, rfl, hd, hn⟩ := Program.enacts_answer_cons_iff.1 h
  rw [Program.enacts_nil_iff.1 hn, List.append_nil]
  exact hd

/-! ### Reads by id and searches -/

/-- What a read by id makes of the body of the answer. -/
def getOutcome (body : Except GatewayError String) : Except DirectoryError User :=
  match body >>= Gateway.decodeBody Account.ofDocument? with
  | .error failure => .error (Service.getFailure failure)
  | .ok none => .error .userNotFound
  | .ok (some account) => .ok account.toUser

/-- What a search by username makes of the body of the answer. -/
def searchOutcome (term : String) (body : Except GatewayError String) :
    Except DirectoryError User :=
  match (·.getD []) <$> (body >>= Gateway.decodeBody (.list Account.ofDocument?)) with
  | .error failure => .error (.unexpected "failed to search user" (some (.gateway failure)))
  | .ok accounts => Selection.select accounts .username term

/-- The outcome of an answered request is decided by the body that came with it. -/
theorem ReadRun.of_answered {α : Type} {own : Option String} {address token : String}
    {outcome : Except GatewayError String → Except DirectoryError User}
    {d₁ d₂ : List Procedure.Exchange} {es : Program.Ending (Except GatewayError String)}
    {read : Except GatewayError String → α} {a : α}
    {result : Except DirectoryError User} (hb : Bears i own token d₁)
    (hs : SendRun .get address token none d₂ es) (he : .finished a = es.map read)
    (ho : ∀ body, a = read body → outcome body = result) :
    ReadRun i own address outcome (d₁ ++ d₂) (.finished result) := by
  cases es with
  | finished body =>
    rw [← ho body (Program.Ending.finished.inj he)]
    exact .asked hb hs
  | interrupted | stalled => cases he

/-- A request without an answer stops the read. -/
theorem ReadRun.of_stopped {α : Type} {own : Option String} {address token : String}
    {outcome : Except GatewayError String → Except DirectoryError User}
    {d₁ d₂ : List Procedure.Exchange} {es : Program.Ending (Except GatewayError String)}
    {read : Except GatewayError String → α} {e : Service.Ending} (hb : Bears i own token d₁)
    (hs : SendRun .get address token none d₂ es) (he : Stops (es.map read) e) :
    ReadRun i own address outcome (d₁ ++ d₂) e := by
  have hmap : es.map outcome = e := by
    cases es with
    | finished => cases he
    | interrupted | stalled =>
      cases he
      rfl
  rw [← hmap]
  exact .asked hb hs

variable {user : User} {d : List Procedure.Exchange} {e : Service.Ending}

/-- **The read was refused** by its checks, before anything was asked of the world. -/
def IsRefused (refusal : Option DirectoryError) (d : List Procedure.Exchange)
    (e : Service.Ending) : Prop :=
  ∃ failure, refusal = some failure ∧ d = [] ∧ e = .finished (.error failure)

/-- **A read in terms of the world**: its checks refuse it, or it comes to a token and makes its one
request, if that is what the adapter makes of its question. -/
theorem readRun_of_enacts {refusal : Option DirectoryError} {question : String → Collaborator}
    {result : (token : String) → (question token).Answer → Except DirectoryError User}
    (read : (token : String) → Except GatewayError String → (question token).Answer)
    {address : String} {outcome : Except GatewayError String → Except DirectoryError User}
    {D : List Service.Exchange}
    (hsend : ∀ token d e, Conducts (i.adapter (question token)) d e →
      ∃ es, SendRun .get address token none d es ∧ e = es.map (read token))
    (houtcome : ∀ token body, outcome body = result token (read token body))
    (hD : Service.ReadRun user refusal question result D e) (hd : Enacts i.adapter D d) :
    IsRefused refusal d e ∨ refusal = none ∧ ReadRun i user.token address outcome d e := by
  cases hD with
  | refused hr => exact .inl ⟨_, hr, Program.enacts_nil_iff.1 hd, rfl⟩
  | noBearer hr hk hb =>
    obtain ⟨-, e', hc, hs⟩ := hd.of_breaks hb
    exact .inr ⟨hr, .stopped hk hc hs⟩
  | noCredential hr hk => exact .inr ⟨hr, .unserved hk (conducts_of_enacts_answer hd)⟩
  | asked hr hb ha =>
    obtain ⟨d₁, d₂, rfl, hb, hd⟩ := bears_of_enacts hb hd
    refine .inr ⟨hr, ?_⟩
    cases ha with
    | unanswered hr =>
      obtain ⟨-, e', hc, hs⟩ := hd.of_breaks hr
      obtain ⟨es, hsent, rfl⟩ := hsend _ _ _ hc
      exact .of_stopped hb hsent hs
    | answered a =>
      obtain ⟨es, hsent, he⟩ := hsend _ _ _ (conducts_of_enacts_answer hd)
      exact .of_answered hb hsent he fun body ha ↦ by rw [houtcome, ← ha]

/-- **A read by id, in terms of the world.** -/
theorem refused_or_readRun_of_getUser (h : Conducts (i.program (.getUser user)) d e) :
    IsRefused (Service.firstRefusal? (i.service.getChecks user)) d e ∨
      Service.firstRefusal? (i.service.getChecks user) = none ∧
        ReadRun i user.token (i.gateway.userAddress user.userId) getOutcome d e := by
  obtain ⟨D, hD, hd⟩ := Program.conducts_expand_iff.1 h
  refine readRun_of_enacts (fun _ ↦ (· >>= Gateway.decodeBody Account.ofDocument?)) ?_ ?_
    (Service.readRun_of_getUser hD) hd
  · exact fun token d e h ↦ Gateway.sendRun_of_getUser h
  · intro token body
    rw [getOutcome]
    rcases body >>= Gateway.decodeBody Account.ofDocument? with failure | - | account <;> rfl

/-- What a search makes of the body of the answer. -/
def foundOutcome (criteria : Criteria) (term : String) (body : Except GatewayError String) :
    Except DirectoryError User :=
  Service.searchResult criteria term
    ((·.getD []) <$> (body >>= Gateway.decodeBody (.list Account.ofDocument?)))

theorem searchOutcome_eq (term : String) : searchOutcome term = foundOutcome .username term := by
  funext body
  rw [searchOutcome, foundOutcome]
  cases (·.getD []) <$> (body >>= Gateway.decodeBody (.list Account.ofDocument?)) <;> rfl

/-- **A search by a known criteria, in terms of the world.** -/
theorem refused_or_readRun_of_searchUser {name : String} {criteria : Criteria}
    (hc : Criteria.ofName? name = some criteria)
    (h : Conducts (i.program (.searchUser user name)) d e) :
    let term := Service.searchTerm user criteria
    IsRefused (Service.firstRefusal? (i.service.searchChecks criteria term)) d e ∨
      Service.firstRefusal? (i.service.searchChecks criteria term) = none ∧
        ReadRun i user.token (i.gateway.searchAddress criteria term)
          (foundOutcome criteria term) d e := by
  intro term
  obtain ⟨D, hD, hd⟩ := Program.conducts_expand_iff.1 h
  refine readRun_of_enacts
    (fun _ body ↦ (·.getD []) <$> (body >>= Gateway.decodeBody (.list Account.ofDocument?)))
    ?_ ?_ (Service.readRun_of_searchUser hc hD) hd
  · exact fun token d e h ↦ Gateway.sendRun_of_searchUsers h
  · exact fun token body ↦ rfl

/-- A read by id of an id that is not blank. -/
theorem readRun_of_getUser (hdomain : ¬Text.isBlankText i.service.domain)
    (hid : ¬Text.isBlankText user.userId) (h : Conducts (i.program (.getUser user)) d e) :
    ReadRun i user.token (i.gateway.userAddress user.userId) getOutcome d e := by
  have hpassed : Service.firstRefusal? (i.service.getChecks user) = none :=
    Service.firstRefusal?_eq_none_iff.2
      (List.forall_mem_cons.2 ⟨hid, List.forall_mem_singleton.2 hdomain⟩)
  obtain ⟨failure, hr, -⟩ | ⟨-, hrun⟩ := refused_or_readRun_of_getUser h
  · cases hpassed.symm.trans hr
  · exact hrun

/-- A search by a username that is not blank. -/
theorem readRun_of_searchUser (hdomain : ¬Text.isBlankText i.service.domain)
    (hterm : ¬Text.isBlankText user.username)
    (h : Conducts (i.program (.searchUser user Criteria.username.name)) d e) :
    ReadRun i user.token (i.gateway.searchAddress .username (Text.trim user.username))
      (searchOutcome (Text.trim user.username)) d e := by
  have hterm : ¬Text.isBlankText (Service.searchTerm user .username) := by
    rwa [Service.searchTerm, Text.isBlankText_trim]
  have hpassed : Service.firstRefusal?
      (i.service.searchChecks .username (Service.searchTerm user .username)) = none :=
    Service.firstRefusal?_eq_none_iff.2
      (List.forall_mem_cons.2 ⟨hdomain, List.forall_mem_singleton.2 hterm⟩)
  have hname : Criteria.ofName? Criteria.username.name = some .username := rfl
  rw [searchOutcome_eq]
  obtain ⟨failure, hr, -⟩ | ⟨-, hrun⟩ := refused_or_readRun_of_searchUser hname h
  · cases hpassed.symm.trans hr
  · exact hrun

/-! ### What a read sends -/

/-- The bearer token of a read whose dialogue is `d`: the caller's own, or the one that the source
of service tokens yields. -/
def HasBearer (i : Instance) (own : Option String) (d : List Procedure.Exchange)
    (token : String) : Prop :=
  own.filter (!·.isEmpty) = some token ∨
    own.filter (!·.isEmpty) = none ∧ Program.Opens i.tokens.getToken d (.ok token)

theorem Bears.hasBearer_iff {own : Option String} {token other : String}
    {d₁ d₂ : List Procedure.Exchange} (h : Bears i own token d₁) :
    HasBearer i own (d₁ ++ d₂) other ↔ other = token := by
  cases h with
  | own hk => simp [HasBearer, hk, eq_comm]
  | service hn hd => simp [HasBearer, hn, hd.opens_iff]

theorem Bears.request_of_mem_sent {own : Option String} {token : String}
    {d : List Procedure.Exchange} (h : Bears i own token d) {request : Http.Request}
    (hr : request ∈ Procedure.sent d) : i.tokens.request = .ok request := by
  cases h with
  | own => exact absurd hr List.not_mem_nil
  | service _ hd => exact Procedure.eq_of_mem_sent hd i.tokens.getToken_obeys hr

theorem hasBearer_none_iff {d : List Procedure.Exchange} {token : String} :
    HasBearer i none d token ↔ Program.Opens i.tokens.getToken d (.ok token) := by
  simp [HasBearer]

theorem hasBearer_some_iff {d : List Procedure.Exchange} {own token : String} (h : own ≠ "") :
    HasBearer i (some own) d token ↔ token = own := by
  have hk : (some own).filter (!·.isEmpty) = some own := by simp [h]
  rw [HasBearer, hk]
  simp [eq_comm]

/-- The request is one for a service token or for the key set. -/
def IsAuxiliary (i : Instance) (request : Http.Request) : Prop :=
  i.tokens.request = .ok request ∨ i.verifier.keysRequest = .ok request

/-- Such a request shows no bearer token, so it is none to the directory. -/
theorem IsAuxiliary.bearer_eq_none {request : Http.Request} (h : i.IsAuxiliary request) :
    request.bearer = none := by
  obtain h | h := h
  · exact Http.Request.bearer_of_build h
  · exact Http.Request.bearer_of_build h

/-- A request with a bearer token is none of these. -/
theorem not_isAuxiliary_of_bearer {request : Http.Request} (h : request.bearer.isSome) :
    ¬i.IsAuxiliary request := by
  intro haux
  rw [haux.bearer_eq_none] at h
  cases h

/-- Such a request changes nothing in the directory. -/
theorem IsAuxiliary.method_ne_patch {request : Http.Request} (h : i.IsAuxiliary request) :
    request.method ≠ .patch := by
  obtain h | h := h
  · rw [(Http.Request.fields_of_build h).1]
    nofun
  · rw [(Http.Request.fields_of_build h).1]
    nofun

/-- **At most one request of the dialogue goes to the directory**, and it is the last one: there is
one if and only if some request satisfies `p`, and it is that request. -/
def SendsLast (i : Instance) (d : List Procedure.Exchange) (p : Http.Request → Prop) : Prop :=
  ∃ (before : List Http.Request) (last : Option Http.Request),
    Procedure.sent d = before ++ last.toList ∧ (∀ request ∈ before, i.IsAuxiliary request) ∧
      ∀ request, last = some request ↔ p request

theorem SendsLast.congr {p q : Http.Request → Prop} (h : SendsLast i d p)
    (hpq : ∀ request, p request ↔ q request) : SendsLast i d q := by
  obtain ⟨before, last, hsent, hbefore, hlast⟩ := h
  exact ⟨before, last, hsent, hbefore, fun request ↦ (hlast request).trans (hpq request)⟩

/-- Auxiliary requests may come before. -/
theorem SendsLast.append {d₁ d₂ : List Procedure.Exchange} {p : Http.Request → Prop}
    (h₁ : ∀ request ∈ Procedure.sent d₁, i.IsAuxiliary request) (h₂ : SendsLast i d₂ p) :
    SendsLast i (d₁ ++ d₂) p := by
  obtain ⟨before, last, hsent, hbefore, hlast⟩ := h₂
  refine ⟨Procedure.sent d₁ ++ before, last, ?_, ?_, hlast⟩
  · rw [Procedure.sent_append, hsent, List.append_assoc]
  · intro request hr
    obtain hr | hr := List.mem_append.1 hr
    · exact h₁ request hr
    · exact hbefore request hr

/-- A dialogue with auxiliary requests only. -/
theorem SendsLast.of_auxiliary {p : Http.Request → Prop}
    (h : ∀ request ∈ Procedure.sent d, i.IsAuxiliary request) (hp : ∀ request, ¬p request) :
    SendsLast i d p := by
  refine ⟨Procedure.sent d, none, (List.append_nil _).symm, h, fun request ↦ ?_⟩
  constructor
  · nofun
  · exact fun hr ↦ absurd hr (hp request)

section ReadRun

variable {own : Option String} {address : String}
  {outcome : Except GatewayError String → Except DirectoryError User}

/-- The request to the directory that a read makes once it has a bearer token. -/
def ReadsWith (i : Instance) (own : Option String) (address : String)
    (d : List Procedure.Exchange) (request : Http.Request) : Prop :=
  ∃ token, HasBearer i own d token ∧
    Http.Request.build .get address (some token) none = .ok request

/-- A read without a bearer token sends requests for service tokens only. -/
theorem sendsLast_of_unserved {e' : Program.Ending (Except CredentialError String)}
    (hn : own.filter (!·.isEmpty) = none) (hd : Conducts i.tokens.getToken d e')
    (he : ∀ token, e' ≠ .finished (.ok token)) : SendsLast i d (ReadsWith i own address d) := by
  refine .of_auxiliary (fun request hr ↦ ?_) ?_
  · exact .inl (Procedure.eq_of_mem_sent hd i.tokens.getToken_obeys hr)
  · rintro request ⟨token, hk | ⟨-, ho⟩, -⟩
    · cases hn.symm.trans hk
    · rw [← List.append_nil d] at ho
      exact he token (hd.eq_of_opens ho)

/-- **What a read sends**: at most one request to the directory, which is sent if and only if there
is a bearer token and the request can be built with it. -/
theorem ReadRun.sendsLast (h : ReadRun i own address outcome d e) :
    SendsLast i d (ReadsWith i own address d) := by
  cases h with
  | stopped hn hd hs =>
    refine sendsLast_of_unserved hn hd fun token he ↦ ?_
    subst he
    cases hs
  | unserved hn hd => exact sendsLast_of_unserved hn hd nofun
  | @asked token d₁ d₂ es hb hs =>
    have hd₂ : SendsLast i d₂ fun request ↦
        Http.Request.build .get address (some token) none = .ok request := by
      refine ⟨[], _, hs.sent_eq, fun _ hr ↦ absurd hr List.not_mem_nil, fun request ↦ ?_⟩
      cases Http.Request.build .get address (some token) none <;> simp [Except.toOption]
    refine (hd₂.append fun _ hr ↦ .inl (hb.request_of_mem_sent hr)).congr fun request ↦ ?_
    simp only [ReadsWith, hb.hasBearer_iff, exists_eq_left]

end ReadRun

/-! ### Refused input -/

theorem eq_of_ofStatus_eq_validation {code : Nat} {reason field detail : String}
    (h : DirectoryError.ofStatus code reason = .validation field detail) :
    code = 400 ∧ field = "request" ∧ detail = reason := by
  rw [DirectoryError.ofStatus] at h
  split_ifs at h with hc
  cases h
  exact ⟨hc, rfl, rfl⟩

/-- A read by id takes nothing but the status 400 for a refused input. -/
theorem eq_of_getOutcome_eq_validation {body : Except GatewayError String} {field detail : String}
    (h : getOutcome body = .error (.validation field detail)) :
    body = .error (.status 400 detail) ∧ field = "request" := by
  cases body with
  | error failure =>
    cases failure with
    | status code reason =>
      obtain ⟨rfl, rfl, rfl⟩ := eq_of_ofStatus_eq_validation (Except.error.inj h)
      exact ⟨rfl, rfl⟩
    | transport | decode => cases h
  | ok body =>
    have hbind : (.ok body >>= Gateway.decodeBody Account.ofDocument?) =
      Gateway.decodeBody Account.ofDocument? body := rfl
    rw [getOutcome, hbind] at h
    split at h
    · next hf =>
      rw [Gateway.eq_decode_of_decodeBody hf] at h
      cases h
    · cases h
    · cases h

/-- **A read by id refuses its input** only if the directory answered its request with the status
400. -/
theorem ReadRun.answered_of_validation {own : Option String} {address field detail : String}
    (h : ReadRun i own address getOutcome d e)
    (he : e = .finished (.error (.validation field detail))) :
    ∃ (token : String) (request : Http.Request) (response : Http.Response),
      HasBearer i own d token ∧
        Http.Request.build .get address (some token) none = .ok request ∧
          ⟨.exchange request, .answer (.ok response)⟩ ∈ d ∧ response.status = 400 ∧
            field = "request" ∧ detail = ErrorBody.explain 400 response.text := by
  cases h with
  | stopped _ _ hs =>
    subst he
    cases hs
  | unserved => cases he
  | @asked token d₁ d₂ es hb hs =>
    cases es with
    | finished body =>
      obtain ⟨rfl, rfl⟩ := eq_of_getOutcome_eq_validation (Program.Ending.finished.inj he)
      obtain ⟨request, response, rfl, hstatus, rfl⟩ := hs.answered_of_status
      have hsent : request ∈ Procedure.sent [⟨.exchange request, .answer (.ok response)⟩] :=
        List.mem_singleton_self _
      exact ⟨token, request, response, hb.hasBearer_iff.2 rfl, hs.mem_sent_iff.1 hsent,
        List.mem_append_right _ (List.mem_singleton_self _), hstatus, rfl, rfl⟩
    | interrupted | stalled => cases he

theorem select_ne_validation {accounts : List Account} {criteria : Criteria}
    {requested field detail : String} :
    Selection.select accounts criteria requested ≠ .error (.validation field detail) := by
  rw [Selection.select_eq_verdict]
  intro h
  rcases hhead : (Selection.confirmations accounts).head? with - | ⟨account, id⟩
  · rw [hhead] at h
    cases h
  · rw [hhead, Selection.verdict] at h
    split_ifs at h
    cases h

/-- **A search does not refuse its input.** -/
theorem ReadRun.ne_validation {own : Option String} {address term field detail : String}
    (h : ReadRun i own address (searchOutcome term) d e) :
    e ≠ .finished (.error (.validation field detail)) := by
  intro he
  cases h with
  | stopped _ _ hs =>
    subst he
    cases hs
  | unserved => cases he
  | @asked token d₁ d₂ es hb hs =>
    cases es with
    | finished body =>
      have ho : searchOutcome term body = .error (.validation field detail) :=
        Program.Ending.finished.inj he
      rw [searchOutcome] at ho
      split at ho
      · cases ho
      · exact select_ne_validation ho
    | interrupted | stalled => cases he

end AccountDirectory.Instance
