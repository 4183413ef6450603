import AccountDirectory.CommandLine.Execution
import AccountDirectory.Proofs.Instance.Reads
import AccountDirectory.Proofs.Service.Reads
import AccountDirectory.Proofs.World

/-!
# Resolving an identifier

The command `resolve` looks an identifier up and then reads the user that it stands for. Five checks
have to agree for this to make sense: the classification trims and finds blank input, the verifier
refuses a blank subject, a read by id and a search refuse blank input of their own and trim it once
more, and both refuse an instance without a domain. `resolve_composes` says that they do agree: at
most one request goes to the directory, it is the one that the classification asks for, and the
input is refused only if it is blank or the directory itself refuses the id.

`ResolveRun` lists the ways of the command, and the law is read off them.
-/

namespace AccountDirectory.CommandLine

open Program (Conducts Stops Opens)
open Instance (ReadRun SendsLast getOutcome searchOutcome)
open Lookup (classify)

/-! ### Calls of the client -/

/-- What a client sees of an outcome. -/
def seen (outcome : Except DirectoryError User) : Except Failure User :=
  outcome.mapError fun e ↦ .call (.ofDirectory e)

variable {i : Instance} {input : String} {d : List Procedure.Exchange}
  {e : Program.Ending (Except Failure User)}

/-- **A call of the client** has the dialogue of the call of the service. -/
theorem conducts_clientCall {c : Service.Call} (h : Conducts (clientCall i c) d e) :
    ∃ e', Conducts (i.program c) d e' ∧ e = e'.map seen := by
  rw [clientCall, Client.program, bind_assoc] at h
  refine Program.conducts_bind_silent (fun {outcome d e} hf ↦ ?_) h
  rcases outcome with failure | user
  · exact Program.conducts_done_iff.1 (Program.conducts_note_iff.1 hf)
  · exact Program.conducts_done_iff.1 hf

/-- A client sees a refused input where the service refuses one. -/
theorem eq_of_map_seen_eq_validation {e : Service.Ending} {reason : String}
    (h : e.map seen = .finished (.error (.call (.validation reason)))) :
    ∃ field detail, e = .finished (.error (.validation field detail)) ∧
      reason = field ++ ": " ++ detail := by
  rcases e with outcome | - | -
  · rcases outcome with failure | user
    · have hf : ClientError.ofDirectory failure = .validation reason :=
        Failure.call.inj (Except.error.inj (Program.Ending.finished.inj h))
      rcases failure with ⟨field, detail⟩ | _ | _ | _ | _ | _ | ⟨_, - | _⟩ | _ | _
      · exact ⟨field, detail, rfl, (ClientError.validation.inj hf).symm⟩
      all_goals cases hf
    · cases h
  · cases h
  · cases h

/-! ### The ways of the command -/

/-- **The ways of the command.** A token is verified and then used to read its owner; a subject and
a username are read with a service token. -/
inductive ResolveRun (i : Instance) (input : String) :
    List Procedure.Exchange → Program.Ending (Except Failure User) → Prop
  | blank (h : Text.isBlankText input) :
    ResolveRun i input []
      (.finished (.error (.call (.validation "input: input is required"))))
  | unverified {token d e' e} (hc : classify input = some (.token token))
    (hd : Conducts (i.verifier.verify token readScope).run d e') (hs : Stops e' e) :
    ResolveRun i input d e
  | refused {token d failure} (hc : classify input = some (.token token))
    (hd : Conducts (i.verifier.verify token readScope).run d (.finished (.error failure))) :
    ResolveRun i input d (.finished (.error (.call (.token failure))))
  | verified {token claims d₁ d₂ e} (hc : classify input = some (.token token))
    (hd : Conducts (i.verifier.verify token readScope).run d₁ (.finished (.ok claims)))
    (hr : ReadRun i (some token) (i.gateway.userAddress claims.subject) getOutcome d₂ e) :
    ResolveRun i input (d₁ ++ d₂) (e.map seen)
  | subject {subject d e} (hc : classify input = some (.subject subject))
    (hr : ReadRun i none (i.gateway.userAddress (Text.trim input)) getOutcome d e) :
    ResolveRun i input d (e.map seen)
  | username {username d e} (hc : classify input = some (.username username))
    (hr : ReadRun i none (i.gateway.searchAddress .username (Text.trim input))
      (searchOutcome (Text.trim input)) d e) :
    ResolveRun i input d (e.map seen)

/-- What the command does with a user that was looked up. -/
def follow (i : Instance) (user : User) : Procedure (Except Failure User) :=
  if user.userId = "" then clientCall i (.searchUser user Criteria.username.name)
  else clientCall i (.getUser user)

/-- A user with an id is read by it. -/
theorem readRun_of_follow_get (user : User) (hdomain : ¬Text.isBlankText i.service.domain)
    (hid : ¬Text.isBlankText user.userId) (h : Conducts (follow i user) d e) :
    ∃ e', ReadRun i user.token (i.gateway.userAddress user.userId) getOutcome d e' ∧
      e = e'.map seen := by
  have hne : user.userId ≠ "" := by
    intro hnil
    rw [hnil] at hid
    exact hid rfl
  rw [follow, if_neg hne] at h
  obtain ⟨e', hc, rfl⟩ := conducts_clientCall h
  exact ⟨e', Instance.readRun_of_getUser hdomain hid hc, rfl⟩

/-- A user with a name only is searched for. -/
theorem readRun_of_follow_search {username : String} (hdomain : ¬Text.isBlankText i.service.domain)
    (hname : ¬Text.isBlankText username) (h : Conducts (follow i { username }) d e) :
    ∃ e', ReadRun i none (i.gateway.searchAddress .username (Text.trim username))
        (searchOutcome (Text.trim username)) d e' ∧ e = e'.map seen := by
  rw [follow, if_pos rfl] at h
  obtain ⟨e', hc, rfl⟩ := conducts_clientCall h
  exact ⟨e', Instance.readRun_of_searchUser hdomain hname hc, rfl⟩

/-- **Every run of the command takes one of these ways.** -/
theorem resolveRun_of_conducts (hdomain : ¬Text.isBlankText i.service.domain)
    (h : Conducts ((Command.resolve input).program i) d e) : ResolveRun i input d e := by
  obtain ⟨e₁, hl, hs⟩ | ⟨outcome, d₁, d₂, rfl, hl, hn⟩ := Program.conducts_bind_iff.1 h
  · -- the lookup stopped, so it was waiting for the verifier
    obtain ⟨e₀, hl₀, rfl⟩ := conducts_clientCall hl
    obtain ⟨D, hD, hd⟩ := Program.conducts_expand_iff.1 hl₀
    have hstop : Stops e₀ e := hs.of_map
    cases Service.lookupRun_of_conducts hD with
    | unverified hspells hr =>
      obtain ⟨-, e', hv, hs'⟩ := hd.of_breaks hr
      exact .unverified (Lookup.classify_eq_token_iff.2 hspells) hv (hs'.trans hstop)
    | _ => cases hstop
  · obtain ⟨e₀, hl₀, he⟩ := conducts_clientCall hl
    obtain ⟨D, hD, hd⟩ := Program.conducts_expand_iff.1 hl₀
    cases Service.lookupRun_of_conducts hD with
    | blank hb =>
      obtain rfl := Program.enacts_nil_iff.1 hd
      obtain rfl := Program.Ending.finished.inj he
      obtain ⟨rfl, rfl⟩ := Program.conducts_done_iff.1 hn
      exact .blank hb
    | unverified _ hr =>
      cases hr <;> cases he
    | refused hspells =>
      obtain rfl := Program.Ending.finished.inj he
      obtain ⟨rfl, rfl⟩ := Program.conducts_done_iff.1 hn
      rw [List.append_nil]
      exact .refused (Lookup.classify_eq_token_iff.2 hspells)
        (Instance.conducts_of_enacts_answer hd)
    | @verified token claims hspells =>
      have hv : Conducts (i.verifier.verify token readScope).run d₁ (.finished (.ok claims)) :=
        Instance.conducts_of_enacts_answer hd
      have hsubject : ¬Text.isBlankText claims.subject :=
        (hv.obeys (i.verifier.verify_obeys token readScope)).2 _ rfl _ rfl
      obtain rfl := Program.Ending.finished.inj he
      obtain ⟨e', hr, rfl⟩ := readRun_of_follow_get _ hdomain hsubject hn
      exact .verified (Lookup.classify_eq_token_iff.2 hspells) hv hr
    | subject hc =>
      obtain rfl := Program.enacts_nil_iff.1 hd
      obtain rfl := Program.Ending.finished.inj he
      obtain rfl := Lookup.eq_trim_of_classify_subject hc
      have hid : ¬Text.isBlankText (Text.trim input) := Lookup.not_isBlankText_trim_of_classify hc
      obtain ⟨e', hr, rfl⟩ := readRun_of_follow_get { userId := Text.trim input } hdomain hid hn
      exact .subject hc hr
    | username hc =>
      obtain rfl := Program.enacts_nil_iff.1 hd
      obtain rfl := Program.Ending.finished.inj he
      obtain rfl := Lookup.eq_trim_of_classify_username hc
      have hname : ¬Text.isBlankText (Text.trim input) := Lookup.not_isBlankText_trim_of_classify hc
      obtain ⟨e', hr, rfl⟩ := readRun_of_follow_search hdomain hname hn
      rw [Text.trim_trim] at hr
      exact .username hc hr

/-! ### The law -/

/-- **The request by which a user is fetched by id**: that of the verified subject with the token
itself, or that of the trimmed identifier with a service token. -/
inductive Fetches (i : Instance) (input : String) (d : List Procedure.Exchange)
    (request : Http.Request) : Prop
  | token {token claims} (hc : classify input = some (.token token))
    (hv : Opens (i.verifier.verify token readScope).run d (.ok claims))
    (hr : Http.Request.build .get (i.gateway.userAddress claims.subject) (some token) none =
      .ok request)
  | subject {subject token} (hc : classify input = some (.subject subject))
    (ht : Opens i.tokens.getToken d (.ok token))
    (hr : Http.Request.build .get (i.gateway.userAddress (Text.trim input)) (some token) none =
      .ok request)

/-- **The request by which a user is searched for**: that for the trimmed identifier as a username,
with a service token. -/
inductive Searches (i : Instance) (input : String) (d : List Procedure.Exchange)
    (request : Http.Request) : Prop
  | username {username token} (hc : classify input = some (.username username))
    (ht : Opens i.tokens.getToken d (.ok token))
    (hr : Http.Request.build .get (i.gateway.searchAddress .username (Text.trim input))
      (some token) none = .ok request)

/-- **Resolving composes**, as a law about the dialogue `d` of one command with the world and its
ending `e`. -/
structure Resolves (i : Instance) (input : String) (d : List Procedure.Exchange)
    (e : Program.Ending (Except Failure User)) : Prop where
  /-- At most one request goes to the directory, after those for the key set or for a service token:
  it is the request that the identifier leads to. -/
  requests : SendsLast i d fun request ↦ Fetches i input d request ∨ Searches i input d request
  /-- Blank input is refused before anything else. -/
  blank : Text.isBlankText input →
    d = [] ∧ e = .finished (.error (.call (.validation "input: input is required")))
  /-- Other input is refused only by the directory, with the status 400 for the id. -/
  refused : ∀ reason, e = .finished (.error (.call (.validation reason))) →
    Text.isBlankText input ∨ ∃ (request : Http.Request) (response : Http.Response),
      Fetches i input d request ∧ ⟨.exchange request, .answer (.ok response)⟩ ∈ d ∧
        response.status = 400 ∧ reason = "request: " ++ ErrorBody.explain 400 response.text

/-- What an identifier leads to is decided by its classification. -/
theorem fetches_or_searches_iff {strategy : Lookup.Strategy} {request : Http.Request}
    (hc : classify input = some strategy) :
    Fetches i input d request ∨ Searches i input d request ↔
      match strategy with
      | .token token => ∃ claims, Opens (i.verifier.verify token readScope).run d (.ok claims) ∧
        Http.Request.build .get (i.gateway.userAddress claims.subject) (some token) none =
          .ok request
      | .subject _ => ∃ token, Opens i.tokens.getToken d (.ok token) ∧
        Http.Request.build .get (i.gateway.userAddress (Text.trim input)) (some token) none =
          .ok request
      | .username _ => ∃ token, Opens i.tokens.getToken d (.ok token) ∧
        Http.Request.build .get (i.gateway.searchAddress .username (Text.trim input))
          (some token) none = .ok request := by
  constructor
  · rintro ((⟨h, hv, hr⟩ | ⟨h, ht, hr⟩) | ⟨h, ht, hr⟩)
    all_goals
      rw [hc] at h
      obtain rfl := Option.some.inj h
      exact ⟨_, ‹_›, hr⟩
  · rcases strategy with token | subject | username
    · rintro ⟨claims, hv, hr⟩
      exact .inl (.token hc hv hr)
    · rintro ⟨token, ht, hr⟩
      exact .inl (.subject hc ht hr)
    · rintro ⟨token, ht, hr⟩
      exact .inr (.username hc ht hr)

/-- Blank input leads to no request. -/
theorem not_fetches_or_searches_of_blank {request : Http.Request} (h : Text.isBlankText input) :
    ¬(Fetches i input d request ∨ Searches i input d request) := by
  have hn : classify input = none := Lookup.classify_eq_none_iff.2 h
  rintro ((⟨hc, -⟩ | ⟨hc, -⟩) | ⟨hc, -⟩)
  all_goals cases hn.symm.trans hc

/-- A verification asks for the key set only. -/
theorem isAuxiliary_of_verify {token : String} {e' : Program.Ending (Except TokenError Claims)}
    (h : Conducts (i.verifier.verify token readScope).run d e') :
    ∀ request ∈ Procedure.sent d, i.IsAuxiliary request :=
  fun _ hr ↦ .inr (Procedure.eq_of_mem_sent h (i.verifier.verify_obeys token readScope) hr)

/-- Without claims there is no request to the directory. -/
theorem sendsLast_of_unverified {token : String} {e' : Program.Ending (Except TokenError Claims)}
    (hc : classify input = some (.token token))
    (hd : Conducts (i.verifier.verify token readScope).run d e')
    (he : ∀ claims, e' ≠ .finished (.ok claims)) :
    SendsLast i d fun request ↦ Fetches i input d request ∨ Searches i input d request := by
  refine .of_auxiliary (isAuxiliary_of_verify hd) fun request ↦ ?_
  rw [fetches_or_searches_iff hc]
  rintro ⟨claims, hv, -⟩
  rw [← List.append_nil d] at hv
  exact he claims (hd.eq_of_opens hv)

/-- **Every way of the command makes at most the request that the identifier leads to.** -/
theorem ResolveRun.sendsLast (h : ResolveRun i input d e) :
    SendsLast i d fun request ↦ Fetches i input d request ∨ Searches i input d request := by
  cases h with
  | blank hb =>
    exact .of_auxiliary (fun _ hr ↦ absurd hr List.not_mem_nil)
      fun _ ↦ not_fetches_or_searches_of_blank hb
  | unverified hc hd hs =>
    refine sendsLast_of_unverified hc hd fun claims he ↦ ?_
    subst he
    cases hs
  | refused hc hd => exact sendsLast_of_unverified hc hd nofun
  | @verified token claims d₁ d₂ e hc hd hr =>
    have hne : token ≠ "" := Lookup.ne_empty_of_spells (Lookup.classify_eq_token_iff.1 hc)
    refine (hr.sendsLast.append (isAuxiliary_of_verify hd)).congr fun request ↦ ?_
    rw [fetches_or_searches_iff hc]
    -- the claims are those of the one verification that the dialogue opens with
    have hv : ∀ claims', Opens (i.verifier.verify token readScope).run (d₁ ++ d₂) (.ok claims') ↔
        claims' = claims := fun claims' ↦ by rw [hd.opens_iff, Except.ok.injEq]
    simp only [Instance.ReadsWith, Instance.hasBearer_some_iff hne, hv, exists_eq_left]
  | subject hc hr | username hc hr =>
    refine hr.sendsLast.congr fun request ↦ ?_
    rw [fetches_or_searches_iff hc]
    simp only [Instance.ReadsWith, Instance.hasBearer_none_iff]

/-- **Every way of the command respects the law.** -/
theorem ResolveRun.resolves (h : ResolveRun i input d e) : Resolves i input d e where
  requests := h.sendsLast
  blank := by
    intro hb
    have hn : classify input = none := Lookup.classify_eq_none_iff.2 hb
    cases h with
    | blank => exact ⟨rfl, rfl⟩
    | unverified hc | refused hc | verified hc | subject hc | username hc =>
      cases hn.symm.trans hc
  refused := by
    intro reason he
    cases h with
    | blank hb => exact .inl hb
    | unverified _ _ hs =>
      subst he
      cases hs
    | refused => cases he
    | @verified token claims d₁ d₂ e hc hd hr =>
      obtain ⟨field, detail, he', rfl⟩ := eq_of_map_seen_eq_validation he
      obtain ⟨bearer, request, response, hb, hbuild, hx, hstatus, rfl, rfl⟩ :=
        hr.answered_of_validation he'
      have hne : token ≠ "" := Lookup.ne_empty_of_spells (Lookup.classify_eq_token_iff.1 hc)
      obtain rfl := (Instance.hasBearer_some_iff hne).1 hb
      exact .inr ⟨request, response, .token hc (hd.opens_iff.2 rfl) hbuild,
        List.mem_append_right _ hx, hstatus, rfl⟩
    | subject hc hr =>
      obtain ⟨field, detail, he', rfl⟩ := eq_of_map_seen_eq_validation he
      obtain ⟨bearer, request, response, hb, hbuild, hx, hstatus, rfl, rfl⟩ :=
        hr.answered_of_validation he'
      exact .inr ⟨request, response, .subject hc (Instance.hasBearer_none_iff.1 hb) hbuild, hx,
        hstatus, rfl⟩
    | username hc hr =>
      obtain ⟨field, detail, he', -⟩ := eq_of_map_seen_eq_validation he
      exact absurd he' hr.ne_validation

/-- **Resolving composes**, in every instance that was built and for every behaviour of the
world. -/
theorem resolve_composes {settings : Settings} {i : Instance}
    (h : (Instance.build settings).2 = .ok i) (input : String) {σ : Type}
    (respond : σ → (op : Effect) → Program.Reply op.Answer × σ) (s : σ) :
    let resolve := (Command.resolve input).program i
    Resolves i input (resolve.dialogue respond s) (resolve.run respond s).ending :=
  (resolveRun_of_conducts (Instance.not_isBlankText_domain_of_build h)
    (Program.conducts_run respond _ s)).resolves

namespace Sample

/-- Settings with a plain HTTP endpoint. -/
def settings : Settings where
  domain := "http://tenant.test"
  serviceToken := { clientId := "app", clientSecret := "key" }

/-- The instance for these settings. -/
def tenant : Instance where
  service := ⟨"http://tenant.test"⟩
  tokens :=
    { address := "http://tenant.test/oauth/token", clientId := "app", clientSecret := "key"
      audience := "http://tenant.test/api/v2/", refreshMargin := 60 }
  verifier :=
    { issuer := "http://tenant.test/", keysAddress := "http://tenant.test/.well-known/jwks.json"
      audience := none, leeway := 60, keySetLifetime := 300 }
  gateway := ⟨"http://tenant.test"⟩
  transport := {}

/-- A world in which a service token is kept and the directory refuses every request. -/
def world : World where
  clock := 0
  delays := []
  calendar := 0
  token := some ⟨"t", 1⟩
  keys := none
  server _ := .answer (.ok ⟨400, []⟩)

end Sample

/-- The directory refuses the id of a subject, and that is how the command ends. -/
theorem resolve_refused_by_directory : (Instance.build Sample.settings).2 = .ok Sample.tenant ∧
    (let resolve := (Command.resolve "auth0|1").program Sample.tenant
     Resolves Sample.tenant "auth0|1" (resolve.dialogue World.respond Sample.world)
        (resolve.run World.respond Sample.world).ending ∧
      (resolve.run World.respond Sample.world).ending =
        .finished (.error (.call (.validation "request: Bad Request")))) := by
  have hbuild : (Instance.build Sample.settings).2 = .ok Sample.tenant := by rfl
  exact ⟨hbuild, resolve_composes hbuild "auth0|1" World.respond Sample.world, rfl⟩

end AccountDirectory.CommandLine
