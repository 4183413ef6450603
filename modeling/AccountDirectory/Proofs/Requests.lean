import AccountDirectory.Assembly
import AccountDirectory.Proofs.Composition
import AccountDirectory.Proofs.Verifier.Checks

/-!
# Which requests the adapters send

The source of service tokens and the verifier send one request each, as often as they need it
(`getToken_obeys`, `verify_obeys`), and show no bearer token with it. Every other request of an
instance is one to the directory.

A request of the gateway is sent once or not at all, and what becomes of it decides how the step
ends: `SendRun` lists the ways, and `sendRun_of_conducts` is the inversion.
-/

namespace AccountDirectory

open Program (Conducts Breaks Obeys ObeysT obeysT_pure obeysT_throw)

/-- An exchange between an adapter and the world. -/
abbrev Procedure.Exchange : Type := Program.Exchange Effect Effect.Answer

/-- The requests that a dialogue sends, in order. -/
def Procedure.sent (d : List Procedure.Exchange) : List Http.Request :=
  d.filterMap fun x ↦
    match x.op with
    | .exchange request => some request
    | _ => none

namespace Procedure

theorem sent_append (d d' : List Exchange) : sent (d ++ d') = sent d ++ sent d' :=
  List.filterMap_append

theorem mem_sent_iff {d : List Exchange} {request : Http.Request} :
    request ∈ sent d ↔ ∃ reply, ⟨.exchange request, reply⟩ ∈ d := by
  rw [sent, List.mem_filterMap]
  constructor
  · rintro ⟨⟨op, reply⟩, hx, h⟩
    cases op with
    | exchange =>
      obtain rfl := Option.some.inj h
      exact ⟨reply, hx⟩
    | _ => cases h
  · rintro ⟨reply, hx⟩
    exact ⟨_, hx, rfl⟩

end Procedure

/-- A request carries what it was built with. -/
theorem Http.Request.fields_of_build {method : Http.Method} {address : String}
    {bearer : Option String} {body : Option Json.Value} {request : Http.Request}
    (h : Http.Request.build method address bearer body = .ok request) :
    request.method = method ∧ request.bearer = bearer ∧ request.body = body := by
  rw [Http.Request.build] at h
  split at h
  · cases h
  · dsimp only at h
    split_ifs at h
    all_goals
      obtain rfl := Except.ok.inj h
      exact ⟨rfl, rfl, rfl⟩

/-- A request carries the bearer token that it was built with. -/
theorem Http.Request.bearer_of_build {method : Http.Method} {address : String}
    {bearer : Option String} {body : Option Json.Value} {request : Http.Request}
    (h : Http.Request.build method address bearer body = .ok request) :
    request.bearer = bearer :=
  (fields_of_build h).2.1

/-! ### Requests of the other two adapters -/

/-- The operation sends no other request than this one, if it could be built. -/
def Effect.SendsOnly (built : Except Http.TransportFailure Http.Request) : Effect → Prop
  | exchange request => built = .ok request
  | _ => True

namespace Procedure

/-- An exchange sends the request that it builds. -/
theorem exchange_obeys {allowed : Effect → Prop} {method : Http.Method} {address : String}
    {bearer : Option String} {body : Option Json.Value}
    (h : ∀ request, Http.Request.build method address bearer body = .ok request →
      allowed (.exchange request)) :
    (Procedure.exchange method address bearer body).Obeys allowed fun _ ↦ True := by
  rw [Procedure.exchange]
  split
  · trivial
  · next request hb => exact ⟨h request hb, fun _ ↦ trivial⟩

theorem call_obeys {allowed : Effect → Prop} (op : Effect) (h : allowed op) :
    (call op).Obeys allowed fun _ ↦ True :=
  ⟨h, fun _ ↦ trivial⟩

theorem log_obeys {allowed : Effect → Prop} {entry : LogEntry} :
    (log entry).Obeys allowed fun _ ↦ True :=
  trivial

end Procedure

/-- The request to the token endpoint. -/
def TokenSource.request (source : TokenSource) : Except Http.TransportFailure Http.Request :=
  Http.Request.build .post source.address none (some source.requestBody)

/-- The request for the key set. -/
def Verifier.keysRequest (v : Verifier) : Except Http.TransportFailure Http.Request :=
  Http.Request.build .get v.keysAddress none none

namespace TokenSource

variable (source : TokenSource)

theorem kept_obeys : kept.Obeys (Effect.SendsOnly source.request) fun _ ↦ True := by
  refine (Procedure.call_obeys .cachedToken trivial).bind fun entry _ ↦ ?_
  cases entry with
  | none => trivial
  | some entry => exact (Procedure.call_obeys .steadyClock trivial).bind fun _ _ ↦ trivial

theorem fetch_obeys : ObeysT (Effect.SendsOnly source.request) (fun _ ↦ True) source.fetch := by
  refine (Procedure.exchange_obeys fun _ h ↦ h).lift.bind fun answer _ ↦ ?_
  cases answer with
  | error failure => exact obeysT_throw
  | ok response =>
    dsimp only
    split
    · split
      · exact obeysT_pure trivial
      · exact obeysT_throw
    · exact obeysT_throw

theorem kindEntries_obeys (granted : GrantedToken) :
    ObeysT (Effect.SendsOnly source.request) (fun _ ↦ True)
      ((kindEntries granted).forM fun e ↦ ExceptT.lift (Procedure.log e) : Step Unit) := by
  induction kindEntries granted with
  | nil => exact obeysT_pure trivial
  | cons entry rest ih => exact Procedure.log_obeys.lift.bind fun _ _ ↦ ih

theorem refresh_obeys : ObeysT (Effect.SendsOnly source.request) (fun _ ↦ True) source.refresh := by
  refine source.fetch_obeys.bind fun granted _ ↦ ?_
  refine (source.kindEntries_obeys granted).bind fun _ _ ↦ ?_
  refine (Procedure.call_obeys .steadyClock trivial).lift.bind fun now _ ↦ ?_
  refine Procedure.log_obeys.lift.bind fun _ _ ↦ ?_
  exact (Procedure.call_obeys (.storeToken _) trivial).lift.bind fun _ _ ↦ obeysT_pure trivial

/-- **The source of service tokens sends its own request only.** -/
theorem getToken_obeys : source.getToken.Obeys (Effect.SendsOnly source.request) fun _ ↦ True := by
  have hnew : ObeysT (Effect.SendsOnly source.request) (fun _ ↦ True) source.keptOrNew := by
    refine source.kept_obeys.lift.bind fun token _ ↦ ?_
    cases token with
    | none => exact source.refresh_obeys
    | some token => exact obeysT_pure trivial
  refine (Procedure.call_obeys .lockToken trivial).bind fun _ _ ↦ Obeys.bind hnew fun outcome _ ↦ ?_
  exact (Procedure.call_obeys .unlockToken trivial).bind fun _ _ ↦ trivial

end TokenSource

namespace Verifier

variable (v : Verifier)

/-- A look at the kept set reads it and the clock, and does nothing else. -/
theorem keptKey_obeys {allowed : Effect → Prop} (hread : allowed .cachedKeys)
    (hclock : allowed .steadyClock) (keyId : Option String) :
    (v.keptKey keyId).Obeys allowed fun _ ↦ True := by
  refine (Procedure.call_obeys .cachedKeys hread).bind fun entry _ ↦ ?_
  cases entry with
  | none => trivial
  | some entry => exact (Procedure.call_obeys .steadyClock hclock).bind fun _ _ ↦ trivial

/-- So does the question whether the set was fetched recently. -/
theorem recentlyFetched_obeys {allowed : Effect → Prop} (hread : allowed .cachedKeys)
    (hclock : allowed .steadyClock) : v.recentlyFetched.Obeys allowed fun _ ↦ True := by
  refine (Procedure.call_obeys .cachedKeys hread).bind fun entry _ ↦ ?_
  cases entry with
  | none => trivial
  | some entry => exact (Procedure.call_obeys .steadyClock hclock).bind fun _ _ ↦ trivial

/-- **What a verifier does**: it looks at the kept key set and replaces it, reads the clocks, and
sends its own request. It leaves the service token alone. -/
def Does : Effect → Prop
  | .cachedKeys | .storeKeys _ | .steadyClock | .calendar => True
  | .exchange request => v.keysRequest = .ok request
  | _ => False

theorem Does.sendsOnly {v : Verifier} {op : Effect} (h : v.Does op) :
    op.SendsOnly v.keysRequest := by
  cases op with
  | exchange => exact h
  | _ => trivial

theorem fetchKeys_does : ObeysT v.Does (fun _ ↦ True) v.fetchKeys := by
  refine Procedure.log_obeys.lift.bind fun _ _ ↦ ?_
  refine (Procedure.exchange_obeys fun _ h ↦ h).lift.bind fun answer _ ↦ ?_
  cases answer with
  | error failure => exact obeysT_throw
  | ok response =>
    dsimp only
    split
    · split
      · refine (Procedure.call_obeys .steadyClock trivial).lift.bind fun now _ ↦ ?_
        exact (Procedure.call_obeys (.storeKeys _) trivial).lift
      · exact obeysT_throw
    · exact obeysT_throw

/-- The look that decides: a key that is not kept then is missing. -/
def lastLook (keyId : Option String) : Step Token.SigningKey :=
  ExceptT.lift (v.keptKey keyId) >>= fun found ↦ found.elim (throw (missingKey keyId)) pure

/-- A lookup ends with its last look, unless the first one has found the key. -/
theorem signingKey_eq (keyId : Option String) :
    v.signingKey keyId = ExceptT.lift (v.keptKey keyId) >>= fun found ↦
      found.elim
        (ExceptT.lift v.recentlyFetched >>= fun recently ↦
          if recently then v.lastLook keyId else v.fetchKeys >>= fun _ ↦ v.lastLook keyId)
        pure := by
  rw [signingKey]
  congr 1
  funext found
  cases found with
  | some key => rfl
  | none =>
    show ExceptT.lift v.recentlyFetched >>= _ = ExceptT.lift v.recentlyFetched >>= _
    congr 1
    funext recently
    rw [lastLook]
    cases recently with
    | true =>
      show ExceptT.lift (v.keptKey keyId) >>= _ = ExceptT.lift (v.keptKey keyId) >>= _
      congr 1
      funext last
      cases last <;> rfl
    | false =>
      show v.fetchKeys >>= (fun _ ↦ ExceptT.lift (v.keptKey keyId) >>= _) =
        v.fetchKeys >>= fun _ ↦ ExceptT.lift (v.keptKey keyId) >>= _
      congr 2
      funext _
      congr 1
      funext last
      cases last <;> rfl

theorem lastLook_does (keyId : Option String) :
    ObeysT v.Does (fun _ ↦ True) (v.lastLook keyId) := by
  refine (v.keptKey_obeys trivial trivial keyId).lift.bind fun key _ ↦ ?_
  cases key with
  | none => exact obeysT_throw
  | some key => exact obeysT_pure trivial

theorem signingKey_does (keyId : Option String) :
    ObeysT v.Does (fun _ ↦ True) (v.signingKey keyId) := by
  rw [signingKey_eq]
  refine (v.keptKey_obeys trivial trivial keyId).lift.bind fun key _ ↦ ?_
  cases key with
  | some key => exact obeysT_pure trivial
  | none =>
    refine (v.recentlyFetched_obeys trivial trivial).lift.bind fun recently _ ↦ ?_
    cases recently with
    | true => exact v.lastLook_does keyId
    | false => exact v.fetchKeys_does.bind fun _ _ ↦ v.lastLook_does keyId

theorem signingKey_obeys (keyId : Option String) :
    ObeysT (Effect.SendsOnly v.keysRequest) (fun _ ↦ True) (v.signingKey keyId) :=
  (v.signingKey_does keyId).imp (fun _ h ↦ h.sendsOnly) fun _ h ↦ h

/-- **A verifier keeps to what verifiers do, and the subject that it accepts is not blank.** -/
theorem verify_does (token scope : String) :
    ObeysT v.Does (fun claims : Claims ↦ ¬Text.isBlankText claims.subject)
      (v.verify token scope) := by
  rw [verify]
  refine ObeysT.check_bind fun read ↦ ?_
  obtain ⟨s, header⟩ := read
  dsimp only
  split
  · exact obeysT_throw
  refine (v.signingKey_does header.keyId).bind fun key _ ↦ ?_
  refine ObeysT.check_bind fun _ ↦ ?_
  refine ObeysT.check_bind fun claims ↦ ?_
  obtain ⟨owner, validity⟩ := claims
  refine (Procedure.call_obeys .calendar trivial).lift.bind fun now _ ↦ ?_
  refine ObeysT.check_bind fun _ ↦ ?_
  dsimp only
  split
  · exact obeysT_throw
  next hb =>
  split
  · refine obeysT_pure ?_
    rwa [claimsOf_eq]
  · exact Procedure.log_obeys.lift.bind fun _ _ ↦ obeysT_throw

theorem verify_obeys (token scope : String) :
    ObeysT (Effect.SendsOnly v.keysRequest) (fun claims : Claims ↦ ¬Text.isBlankText claims.subject)
      (v.verify token scope) :=
  (v.verify_does token scope).imp (fun _ h ↦ h.sendsOnly) fun _ h ↦ h

end Verifier

/-- What obeys sends the one request only, in every dialogue. -/
theorem Procedure.eq_of_mem_sent {α : Type} {p : Procedure α} {d : List Procedure.Exchange}
    {e : Program.Ending α} {built : Except Http.TransportFailure Http.Request} {post : α → Prop}
    (h : Conducts p d e) (hp : p.Obeys (Effect.SendsOnly built) post) {request : Http.Request}
    (hr : request ∈ sent d) : built = .ok request := by
  obtain ⟨reply, hx⟩ := mem_sent_iff.1 hr
  exact (h.obeys hp).1 _ hx

/-! ### Requests of the gateway -/

namespace Gateway

/-- **The ways of a request to the directory**: it cannot be built, or it is sent once. -/
inductive SendRun (method : Http.Method) (address token : String) (body : Option Json.Value) :
    List Procedure.Exchange → Program.Ending (Except GatewayError String) → Prop
  | unbuilt {failure} (h : Http.Request.build method address (some token) body = .error failure) :
    SendRun method address token body [] (.finished (.error (.transport failure.message)))
  | unanswered {request r e} (h : Http.Request.build method address (some token) body = .ok request)
    (hr : Breaks r e) : SendRun method address token body [⟨.exchange request, r⟩] e
  | failed {request failure}
    (h : Http.Request.build method address (some token) body = .ok request) :
    SendRun method address token body [⟨.exchange request, .answer (.error failure)⟩]
      (.finished (.error (.transport failure.message)))
  | refused {request} {response : Http.Response}
    (h : Http.Request.build method address (some token) body = .ok request)
    (hs : ¬Http.isSuccess response.status) :
    SendRun method address token body [⟨.exchange request, .answer (.ok response)⟩]
      (.finished (.error
        (.status response.status (ErrorBody.explain response.status response.text))))
  | accepted {request} {response : Http.Response}
    (h : Http.Request.build method address (some token) body = .ok request)
    (hs : Http.isSuccess response.status) :
    SendRun method address token body [⟨.exchange request, .answer (.ok response)⟩]
      (.finished (.ok response.text))

/-- **Every request to the directory takes one of these ways.** -/
theorem sendRun_of_conducts {method : Http.Method} {address token : String}
    {body : Option Json.Value} {d : List Procedure.Exchange}
    {e : Program.Ending (Except GatewayError String)}
    (h : Conducts (send method address token body).run d e) :
    SendRun method address token body d e := by
  rw [send, ExceptT.run_bind_lift, Procedure.exchange] at h
  cases hb : Http.Request.build method address (some token) body with
  | error failure =>
    rw [hb] at h
    obtain ⟨rfl, rfl⟩ := Program.conducts_done_iff.1 h
    exact .unbuilt hb
  | ok request =>
    rw [hb] at h
    obtain ⟨r, rfl, hr⟩ | ⟨answer, d, rfl, hn⟩ := Program.conducts_ask_iff.1 h
    · exact .unanswered hb hr
    cases answer with
    | error failure =>
      obtain ⟨rfl, rfl⟩ := Program.conducts_done_iff.1 hn
      exact .failed hb
    | ok response =>
      change Conducts (ite (Http.isSuccess response.status = true) _ _ : Step String).run d e at hn
      split_ifs at hn with hs
      · obtain ⟨rfl, rfl⟩ := Program.conducts_done_iff.1 hn
        exact .accepted hb hs
      · obtain ⟨rfl, rfl⟩ := Program.conducts_done_iff.1 (Program.conducts_note_iff.1 hn)
        exact .refused hb hs

/-- What a request sends is the request that was built. -/
theorem SendRun.sent_eq {method : Http.Method} {address token : String}
    {body : Option Json.Value} {d : List Procedure.Exchange}
    {e : Program.Ending (Except GatewayError String)} (h : SendRun method address token body d e) :
    Procedure.sent d = (Http.Request.build method address (some token) body).toOption.toList := by
  cases h with
  | unbuilt h =>
    rw [h]
    rfl
  | unanswered h | failed h | refused h | accepted h =>
    rw [h]
    rfl

/-- A request that is sent is the one that was built. -/
theorem SendRun.mem_sent_iff {method : Http.Method} {address token : String}
    {body : Option Json.Value} {d : List Procedure.Exchange}
    {e : Program.Ending (Except GatewayError String)} (h : SendRun method address token body d e)
    {request : Http.Request} :
    request ∈ Procedure.sent d ↔
      Http.Request.build method address (some token) body = .ok request := by
  rw [h.sent_eq]
  cases Http.Request.build method address (some token) body with
  | error failure => simp [Except.toOption]
  | ok built => simp [Except.toOption, eq_comm]

/-- A status is reported as the directory answered it. -/
theorem SendRun.answered_of_status {method : Http.Method} {address token : String}
    {body : Option Json.Value} {d : List Procedure.Exchange} {code : Nat} {reason : String}
    (h : SendRun method address token body d (.finished (.error (.status code reason)))) :
    ∃ (request : Http.Request) (response : Http.Response),
      d = [⟨.exchange request, .answer (.ok response)⟩] ∧ response.status = code ∧
        reason = ErrorBody.explain code response.text := by
  cases h with
  | unanswered _ hr => cases hr
  | refused => exact ⟨_, _, rfl, rfl, rfl⟩

/-- A body that cannot be decoded is a failure of its own kind. -/
theorem eq_decode_of_decodeBody {α : Type} {read : Json.Reader α} {body : String}
    {failure : GatewayError} (h : decodeBody read body = .error failure) :
    failure = .decode unreadable := by
  rw [decodeBody] at h
  split_ifs at h
  split at h
  · cases h
  · exact (Except.error.inj h).symm

variable {g : Gateway} {token : String} {d : List Procedure.Exchange}

/-- **A read by id** is one request, and its body is decoded. -/
theorem sendRun_of_getUser {userId : String} {e : Program.Ending (Except GatewayError _)}
    (h : Conducts (g.getUser token userId).run d e) :
    ∃ es, SendRun .get (g.userAddress userId) token none d es ∧
      e = es.map (· >>= decodeBody Account.ofDocument?) := by
  obtain ⟨es, hs, rfl⟩ := Program.conducts_bind_silent (g := (· >>= decodeBody Account.ofDocument?))
    (fun {body _ _} hf ↦ by cases body <;> exact Program.conducts_done_iff.1 hf) h
  exact ⟨es, sendRun_of_conducts hs, rfl⟩

/-- **A search** is one request, and its body is decoded; no body is an empty list. -/
theorem sendRun_of_searchUsers {criteria : Criteria} {term : String}
    {e : Program.Ending (Except GatewayError _)}
    (h : Conducts (g.searchUsers token criteria term).run d e) :
    ∃ es, SendRun .get (g.searchAddress criteria term) token none d es ∧
      e = es.map fun body ↦ (·.getD []) <$> (body >>= decodeBody (.list Account.ofDocument?)) := by
  refine (Program.conducts_bind_silent (fun {body d e} hf ↦ ?_) h).imp
    fun es hs ↦ ⟨sendRun_of_conducts hs.1, hs.2⟩
  cases body with
  | error failure => exact Program.conducts_done_iff.1 hf
  | ok body =>
    obtain ⟨ed, hd, rfl⟩ := Program.conducts_bind_silent (g := fun x ↦ (·.getD []) <$> x)
      (fun {found _ _} hf ↦ by cases found <;> exact Program.conducts_done_iff.1 hf) hf
    obtain ⟨rfl, rfl⟩ := Program.conducts_done_iff.1 hd
    exact ⟨rfl, rfl⟩

/-- **A change of metadata** is one request, and what the answer reports is decoded. -/
theorem sendRun_of_patchMetadata {userId : String} {metadata : Metadata}
    {e : Program.Ending (Except GatewayError _)}
    (h : Conducts (g.patchMetadata token userId metadata).run d e) :
    ∃ es, SendRun .patch (g.userAddress userId) token (some (patchBody metadata)) d es ∧
      e = es.map fun body ↦ Option.join <$> (body >>= decodeBody storedMetadata) := by
  refine (Program.conducts_bind_silent (fun {body d e} hf ↦ ?_) h).imp
    fun es hs ↦ ⟨sendRun_of_conducts hs.1, hs.2⟩
  cases body with
  | error failure => exact Program.conducts_done_iff.1 hf
  | ok body =>
    obtain ⟨ed, hd, rfl⟩ := Program.conducts_bind_silent (g := fun x ↦ Option.join <$> x)
      (fun {found _ _} hf ↦ by cases found <;> exact Program.conducts_done_iff.1 hf) hf
    obtain ⟨rfl, rfl⟩ := Program.conducts_done_iff.1 hd
    exact ⟨rfl, rfl⟩

/-! ### Answered requests -/

variable {request : Http.Request} {response : Http.Response}

/-- A request that is answered with success gives the body of the answer. -/
theorem conducts_send {method : Http.Method} {address : String} {body : Option Json.Value}
    (hbuild : Http.Request.build method address (some token) body = .ok request)
    (hsuccess : Http.isSuccess response.status) :
    Conducts (send method address token body).run
      [⟨.exchange request, .answer (.ok response)⟩] (.finished (.ok response.text)) := by
  rw [send, ExceptT.run_bind_lift, Procedure.exchange, hbuild]
  refine Program.conducts_ask_iff.2 (.inr ⟨.ok response, [], rfl, ?_⟩)
  change Conducts (ite (Http.isSuccess response.status = true) _ _ : Step String).run _ _
  rw [if_pos hsuccess]
  exact .done _

/-- A read by id that is answered with success gives what its body is read as. -/
theorem conducts_getUser {userId : String}
    (hbuild : Http.Request.build .get (g.userAddress userId) (some token) none = .ok request)
    (hsuccess : Http.isSuccess response.status) :
    Conducts (g.getUser token userId).run [⟨.exchange request, .answer (.ok response)⟩]
      (.finished (decodeBody Account.ofDocument? response.text)) := by
  rw [getUser, Program.conducts_bindT_iff]
  exact .inr (.inr ⟨_, _, [], (List.append_nil _).symm, conducts_send hbuild hsuccess, .done _⟩)

/-- A search that is answered with success gives the accounts that its body lists. -/
theorem conducts_searchUsers {criteria : Criteria} {term : String}
    (hbuild : Http.Request.build .get (g.searchAddress criteria term) (some token) none =
      .ok request) (hsuccess : Http.isSuccess response.status) :
    Conducts (g.searchUsers token criteria term).run [⟨.exchange request, .answer (.ok response)⟩]
      (.finished ((·.getD []) <$> decodeBody (.list Account.ofDocument?) response.text)) := by
  rw [searchUsers, Program.conducts_bindT_iff]
  refine .inr (.inr ⟨_, _, [], (List.append_nil _).symm, conducts_send hbuild hsuccess, ?_⟩)
  cases decodeBody (.list Account.ofDocument?) response.text with
  | error failure => exact .done _
  | ok found => exact .done _

/-- A change that is answered with success gives the metadata that the answer reports. -/
theorem conducts_patchMetadata {subject : String} {m : Metadata}
    (hbuild : Http.Request.build .patch (g.userAddress subject) (some token)
      (some (patchBody m)) = .ok request) (hsuccess : Http.isSuccess response.status) :
    Conducts (g.patchMetadata token subject m).run
      [⟨.exchange request, .answer (.ok response)⟩]
      (.finished (Option.join <$> decodeBody storedMetadata response.text)) := by
  rw [patchMetadata, Program.conducts_bindT_iff]
  refine .inr (.inr ⟨_, _, [], (List.append_nil _).symm, conducts_send hbuild hsuccess, ?_⟩)
  cases decodeBody storedMetadata response.text with
  | error failure => exact .done _
  | ok found => exact .done _

end Gateway

end AccountDirectory
