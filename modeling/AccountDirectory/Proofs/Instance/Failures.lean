import AccountDirectory.Proofs.Client.Cancellation
import AccountDirectory.Proofs.Instance.Calls

/-!
# How failures reach a client

A failure of the directory goes through four conversions before a client sees it: the body of the
refusal becomes a reason, the response an error of the gateway, this an error of the operation, and
this one of the client. `ReportsFailures` says what comes out at the end for one call, whatever the
world answers, and `call_reportsFailures` that it holds of every call of every instance.

* **The directory's own text** arrives in every case, trimmed and not blank
  (`ErrorBody.explain_isTrimmed`).
* **A status has a meaning** to a read by id only (`Means`). To a search and to an update every failure
  of the directory is unexpected, and so is a failed transport or an unreadable body to all three.
* **A failure of the verifier** arrives as it is.
-/

namespace AccountDirectory

open Program (Conducts Stops Opens)
open Lookup (Spells)
open Service (Presents)

/-! ### The text of a refusal -/

namespace ErrorBody

theorem isTrimmed_of_bestMessage {e : ErrorBody} {m : String} (h : e.bestMessage = some m) :
    Text.IsTrimmed m := by
  obtain ⟨text?, -, hm⟩ := List.exists_of_findSome?_eq_some h
  obtain ⟨htrim, hne⟩ := Option.filter_eq_some_iff.1 hm
  obtain ⟨text, -, rfl⟩ := Option.map_eq_some_iff.1 htrim
  refine Text.isTrimmed_trim fun hempty ↦ ?_
  rw [hempty] at hne
  cases hne

theorem isTrimmed_reasonPhrases :
    ∀ entry ∈ Http.reasonPhrases, ¬Text.isBlankText entry.2 ∧ Text.trim entry.2 = entry.2 := by
  decide +kernel

/-- A status without a phrase is named by its number, and a number ends with a digit. -/
theorem isTrimmed_status (status : Nat) : Text.IsTrimmed ("status " ++ toString status) := by
  have hne : ("status " ++ toString status).toList =
      "status ".toList ++ Nat.toDigits 10 status := by
    rw [String.toList_append, Nat.toString_eq_repr, Nat.toList_repr]
  have hself : Text.trimBoth ("status " ++ toString status).toList =
      ("status " ++ toString status).toList := by
    refine Text.trimBoth_eq_self (fun c hc ↦ ?_) fun c hc ↦ ?_
    · rw [hne] at hc
      obtain rfl : 's' = c := Option.some.inj hc
      decide
    · rw [hne, List.getLast?_append_of_ne_nil _ Nat.toDigits_ne_nil] at hc
      have hdigit := Nat.isDigit_of_mem_toDigits (by decide) (by decide) (List.mem_of_getLast? hc)
      exact Text.not_isBlank_of_isDigit hdigit
  have htrim : Text.trim ("status " ++ toString status) = "status " ++ toString status := by
    rw [Text.trim, hself, String.ofList_toList]
  have hnonempty : Text.trim ("status " ++ toString status) ≠ "" := by
    rw [htrim]
    intro hempty
    rw [hempty] at hne
    cases hne
  rw [← htrim]
  exact Text.isTrimmed_trim hnonempty

theorem isTrimmed_fallback (status : Nat) : Text.IsTrimmed (fallback status) := by
  rw [fallback]
  cases h : Http.reasonPhrase? status with
  | some phrase =>
    obtain ⟨before, after, hsplit, -⟩ := List.lookup_eq_some_iff.1 h
    refine isTrimmed_reasonPhrases (status, phrase) ?_
    rw [hsplit]
    exact List.mem_append_right _ List.mem_cons_self
  | none => exact isTrimmed_status status

/-- **What is said of a refusal is trimmed and not blank.** -/
theorem explain_isTrimmed (status : Nat) (body : String) : Text.IsTrimmed (explain status body) := by
  rw [explain]
  cases h : (ofText? body).bind bestMessage with
  | none => exact isTrimmed_fallback status
  | some m =>
    obtain ⟨e, -, hm⟩ := Option.bind_eq_some_iff.1 h
    exact isTrimmed_of_bestMessage hm

end ErrorBody

/-! ### What a client sees -/

/-- **The meaning of a status** to a read by id, with the reason that comes with it. -/
inductive Means : Nat → String → ClientError → Prop
  | badRequest (m) : Means 400 m (.validation ("request: " ++ m))
  | unauthorized (m) : Means 401 m (.unauthorized m)
  | forbidden (m) : Means 403 m (.forbidden m)
  | notFound (m) : Means 404 m (.notFound m)
  | conflict (m) : Means 409 m (.conflict m)
  | unavailable {code} (h : code ∈ [429, 502, 503, 504]) (m) : Means code m (.serviceUnavailable m)
  | other {code} (h : code ∉ [400, 401, 403, 404, 409, 429, 502, 503, 504]) (m) :
    Means code m (.unexpected ("directory responded with status " ++ toString code ++ ": " ++ m))

theorem means_ofStatus (code : Nat) (m : String) :
    Means code m (.ofDirectory (.ofStatus code m)) := by
  rw [DirectoryError.ofStatus]
  split_ifs with h₁ h₂ h₃ h₄ h₅ h₆
  · exact h₁ ▸ .badRequest m
  · exact h₂ ▸ .unauthorized m
  · exact h₃ ▸ .forbidden m
  · exact h₄ ▸ .notFound m
  · exact h₅ ▸ .conflict m
  · exact .unavailable (by simpa using h₆) m
  · exact .other (by simp; omega) m

/-- **What a client sees of a failure of the gateway**, by operation. -/
inductive Reports : Service.Call → GatewayError → ClientError → Prop
  | meaning {user code m shown} (h : Means code m shown) :
    Reports (.getUser user) (.status code m) shown
  | get {user failure} (h : ∀ code m, failure ≠ .status code m) :
    Reports (.getUser user) failure (.unexpected ("failed to get user: " ++ failure.message))
  | search {user name failure} :
    Reports (.searchUser user name) failure
      (.unexpected ("failed to search user: " ++ failure.message))
  | update {user failure} :
    Reports (.updateUser user) failure (.unexpected ("failed to update user: " ++ failure.message))

/-- **The body cannot be read** by the operation. -/
inductive Undecodable : Service.Call → String → GatewayError → Prop
  | get {user text failure}
    (h : Gateway.decodeBody Account.ofDocument? text = .error failure) :
    Undecodable (.getUser user) text failure
  | search {user name text failure}
    (h : Gateway.decodeBody (.list Account.ofDocument?) text = .error failure) :
    Undecodable (.searchUser user name) text failure
  | update {user text failure} (h : Gateway.decodeBody Gateway.storedMetadata text = .error failure) :
    Undecodable (.updateUser user) text failure

namespace Instance

variable {i : Instance} {call : Service.Call} {d d₁ d₂ : List Procedure.Exchange}
  {e : Service.Ending} {outcome : Except GatewayError String → Except DirectoryError User}

/-- What an operation makes of a failure of the gateway is what a client is to see of it. -/
theorem Concludes.reports (h : Concludes call outcome) (failure : GatewayError) :
    ∃ e, outcome (.error failure) = .error e ∧ Reports call failure (.ofDirectory e) := by
  cases h with
  | get user =>
    refine ⟨_, rfl, ?_⟩
    cases failure with
    | status code m => exact .meaning (means_ofStatus code m)
    | transport | decode => exact .get nofun
  | search => exact ⟨_, rfl, .search⟩
  | update => exact ⟨_, rfl, .update⟩

/-- A body that cannot be read is a failure of the gateway. -/
theorem Concludes.of_undecodable {text : String} {failure : GatewayError}
    (h : Concludes call outcome) (hu : Undecodable call text failure) :
    outcome (.ok text) = outcome (.error failure) := by
  cases hu with
  | get hd =>
    cases h with
    | get =>
      have hbind : (.ok text >>= Gateway.decodeBody Account.ofDocument?) = .error failure := hd
      rw [getOutcome, hbind]
      rfl
  | search hd =>
    cases h with
    | search =>
      have hbind : (.ok text >>= Gateway.decodeBody (.list Account.ofDocument?)) =
        .error failure := hd
      rw [foundOutcome, hbind]
      rfl
  | update hd =>
    cases h with
    | update =>
      have hbind : (.ok text >>= Gateway.decodeBody Gateway.storedMetadata) = .error failure := hd
      rw [updateOutcome, hbind]
      rfl

/-! ### What the dialogue of a call tells -/

/-- **A call poses one request**: of two beginnings of a dialogue after which it comes to its
request, one is the other, and so is the request. -/
theorem Poses.unique {draft draft' : Draft} {d₁' : List Procedure.Exchange}
    (h : Poses i call d₁ draft) (h' : Poses i call d₁' draft') (hd : d₁ <+: d) (hd' : d₁' <+: d) :
    d₁' = d₁ ∧ draft' = draft := by
  cases h with
  | get hr hb =>
    cases h' with
    | get hr' hb' =>
      obtain ⟨rfl, rfl⟩ := hb.unique hb' hd hd'
      exact ⟨rfl, rfl⟩
  | search hc hr hb =>
    cases h' with
    | search hc' hr' hb' =>
      obtain rfl := Option.some.inj (hc.symm.trans hc')
      obtain ⟨rfl, rfl⟩ := hb.unique hb' hd hd'
      exact ⟨rfl, rfl⟩
  | update hp hv hdomain hm =>
    cases h' with
    | update hp' hv' hdomain' hm' =>
      obtain rfl := hp.unique hp'
      obtain ⟨rfl, he⟩ := hv.unique hv' hd hd'
      obtain rfl := Except.ok.inj (Program.Ending.finished.inj he)
      obtain rfl := Option.some.inj (hm.symm.trans hm')
      exact ⟨rfl, rfl⟩

/-- The source of service tokens asks for its lock first. -/
theorem exists_lock_of_getToken {source : TokenSource}
    {e' : Program.Ending (Except CredentialError String)} (h : Conducts source.getToken d e') :
    ∃ r rest, d = ⟨.lockToken, r⟩ :: rest := by
  obtain ⟨r, rfl, -⟩ | ⟨a, rest, rfl, -⟩ := Program.conducts_ask_iff.1 h
  · exact ⟨r, [], rfl⟩
  · exact ⟨_, rest, rfl⟩

section Stopped

variable {ε α : Type} {convert : ε → DirectoryError} {e' : Program.Ending (Except ε α)}

/-- What stops or fails a call has not succeeded, -/
theorem ne_finished_ok (he : Stops e' e ∨ ∃ failure, e' = .finished (.error failure) ∧
    e = .finished (.error (convert failure))) (a : α) : e' ≠ .finished (.ok a) := by
  rintro rfl
  obtain hs | ⟨failure, hf, -⟩ := he
  · cases hs
  · cases hf

/-- and its failure is that of the call. -/
theorem eq_finished_of_failed {failure : ε} (he : Stops e' e ∨ ∃ failure,
    e' = .finished (.error failure) ∧ e = .finished (.error (convert failure)))
    (hf : e' = .finished (.error failure)) : e = .finished (.error (convert failure)) := by
  subst hf
  obtain hs | ⟨failure', hf, rfl⟩ := he
  · cases hs
  · rw [Except.error.inj (Program.Ending.finished.inj hf)]

end Stopped

/-- A read that has its token has got it from the source, if it has asked the source. -/
theorem Bears.eq_finished {own : Option String} {token : String}
    {e' : Program.Ending (Except CredentialError String)} (h : Bears i own token d)
    (hd : Conducts i.tokens.getToken d e') : e' = .finished (.ok token) := by
  cases h with
  | own =>
    obtain ⟨r, rest, hnil⟩ := exists_lock_of_getToken hd
    cases hnil
  | service _ hd' => exact (hd'.unique hd (List.prefix_refl d) (List.prefix_refl d)).2

/-- A call that comes to its request makes it. -/
theorem CallRun.sendRun_of_poses {draft : Draft} (h : CallRun i call d e)
    (hp : Poses i call d draft) :
    ∃ (es : Program.Ending (Except GatewayError String))
      (outcome : Except GatewayError String → Except DirectoryError User),
        draft.SendRun [] es ∧ Concludes call outcome ∧ e = es.map outcome := by
  cases h with
  | silent _ hn | verified _ _ hn => exact absurd hp (hn _ draft)
  | unserved hv hd he =>
    cases hp with
    | get _ hb | search _ _ hb => exact absurd (hb.eq_finished hd) (ne_finished_ok he _)
    | update hpresents => exact absurd (.update hpresents) (hv _ _)
  | unverified hv hd he =>
    cases hp with
    | get | search => cases hv
    | update hpresents hd' =>
      obtain ⟨rfl, rfl⟩ := hv.unique (.update hpresents)
      obtain ⟨-, hok⟩ := hd'.unique hd (List.prefix_refl d) (List.prefix_refl d)
      exact absurd hok (ne_finished_ok he _)
  | posed hp' hs ho =>
    obtain ⟨hd, rfl⟩ := hp.unique hp' (List.prefix_refl _) (List.prefix_append _ _)
    obtain rfl := List.append_right_eq_self.1 hd.symm
    exact ⟨_, _, hs, ho, rfl⟩

/-! ### The law -/

/-- What a client sees at the end of a call. -/
def clientOutcome (e : Service.Ending) : Option (Except ClientError User) :=
  (Client.outcome? e).map (Except.mapError ClientError.ofDirectory)

/-- **How failures reach the client**, as a law about the dialogue `d` of one call with the world
and what the client sees at its end. -/
structure ReportsFailures (i : Instance) (call : Service.Call) (d : List Procedure.Exchange)
    (seen : Option (Except ClientError User)) : Prop where
  /-- A request of the call was refused with a status other than success. -/
  refused : ∀ (request : Http.Request) (response : Http.Response),
    ⟨.exchange request, .answer (.ok response)⟩ ∈ d → request.bearer.isSome →
      ¬Http.isSuccess response.status → ∃ shown, seen = some (.error shown) ∧
        Reports call
          (.status response.status (ErrorBody.explain response.status response.text)) shown
  /-- It got no answer. -/
  unreached : ∀ (request : Http.Request) (failure : Http.TransportFailure),
    ⟨.exchange request, .answer (.error failure)⟩ ∈ d → request.bearer.isSome →
      ∃ shown, seen = some (.error shown) ∧ Reports call (.transport failure.message) shown
  /-- It could not be built. -/
  unbuilt : ∀ draft failure, Poses i call d draft → draft.build = .error failure →
    ∃ shown, seen = some (.error shown) ∧ Reports call (.transport failure.message) shown
  /-- It was answered with success and a body that the operation cannot read. -/
  unreadable : ∀ (request : Http.Request) (response : Http.Response) (failure : GatewayError),
    ⟨.exchange request, .answer (.ok response)⟩ ∈ d → request.bearer.isSome →
      Http.isSuccess response.status → Undecodable call response.text failure →
        ∃ shown, seen = some (.error shown) ∧ Reports call failure shown
  /-- There was no service token for it. -/
  unserved : ∀ failure, Opens i.tokens.getToken d (.error failure) →
    seen = some (.error (.unexpected ("failed to get M2M token: " ++ failure.message)))
  /-- The verifier did not accept the token of the call. -/
  unverified : ∀ token scope failure, Verifies call token scope →
    Opens (i.verifier.verify token scope).run d (.error failure) →
      seen = some (.error (.token failure))

/-- A failure of the gateway is reported. -/
theorem Concludes.seen (h : Concludes call outcome) {body : Except GatewayError String}
    {failure : GatewayError} (hb : outcome body = outcome (.error failure)) :
    ∃ shown, clientOutcome (.finished (outcome body)) = some (.error shown) ∧
      Reports call failure shown := by
  obtain ⟨e, he, hreports⟩ := h.reports failure
  refine ⟨_, ?_, hreports⟩
  rw [hb, he]
  rfl

/-- A dialogue of the verifier or of a request is none of the source of service tokens. -/
theorem not_opens_getToken {result : Except CredentialError String}
    (h : ∀ x ∈ d, x.op ≠ .lockToken) : ¬Opens i.tokens.getToken d result := by
  rintro ⟨d₁, hbegins, hd⟩
  obtain ⟨r, rest, rfl⟩ := exists_lock_of_getToken hd
  exact h _ (hbegins.subset List.mem_cons_self) rfl

theorem Draft.ne_lockToken {draft : Draft} {es : Program.Ending (Except GatewayError String)}
    (h : draft.SendRun d es) : ∀ x ∈ d, x.op ≠ .lockToken := by
  intro x hx
  cases h with
  | unbuilt => exact absurd hx List.not_mem_nil
  | unanswered | failed | refused | accepted =>
    rw [List.mem_singleton.1 hx]
    nofun

theorem ne_lockToken_of_verify {token scope : String}
    {e' : Program.Ending (Except TokenError Claims)}
    (h : Conducts (i.verifier.verify token scope).run d e') : ∀ x ∈ d, x.op ≠ .lockToken := by
  intro x hx hlock
  have hdoes := (h.obeys (i.verifier.verify_does token scope)).1 x hx
  rw [hlock] at hdoes
  exact hdoes

/-- A failure of the source of service tokens is unexpected. -/
theorem CallRun.seen_of_unserved {failure : CredentialError} (h : CallRun i call d e)
    (hopens : Opens i.tokens.getToken d (.error failure)) :
    clientOutcome e =
      some (.error (.unexpected ("failed to get M2M token: " ++ failure.message))) := by
  cases h with
  | silent => exact absurd hopens (not_opens_getToken fun x hx ↦ absurd hx List.not_mem_nil)
  | unserved _ hd he =>
    rw [← List.append_nil d] at hopens
    rw [eq_finished_of_failed he (hd.eq_of_opens hopens)]
    rfl
  | unverified _ hd | verified _ hd =>
    exact absurd hopens (not_opens_getToken (ne_lockToken_of_verify hd))
  | @posed draft outcome d₁ d₂ es hp hs =>
    have hrequest := Draft.ne_lockToken hs
    cases hp with
    | get _ hb | search _ _ hb =>
      cases hb with
      | own => exact absurd hopens (not_opens_getToken hrequest)
      | service _ hd => cases hd.eq_of_opens hopens
    | update _ hv =>
      refine absurd hopens (not_opens_getToken fun x hx ↦ ?_)
      obtain hx | hx := List.mem_append.1 hx
      · exact ne_lockToken_of_verify hv x hx
      · exact hrequest x hx

/-- A failure of the verifier is passed on as it is. -/
theorem CallRun.seen_of_unverified {token scope : String} {failure : TokenError}
    (h : CallRun i call d e) (hv : Verifies call token scope)
    (hopens : Opens (i.verifier.verify token scope).run d (.error failure)) :
    clientOutcome e = some (.error (.token failure)) := by
  cases h with
  | silent hn | unserved hn => exact absurd hv (hn token scope)
  | unverified hv' hd he =>
    obtain ⟨rfl, rfl⟩ := hv.unique hv'
    rw [← List.append_nil d] at hopens
    rw [eq_finished_of_failed he (hd.eq_of_opens hopens)]
    rfl
  | verified hv' hd =>
    obtain ⟨rfl, rfl⟩ := hv.unique hv'
    rw [← List.append_nil d] at hopens
    cases hd.eq_of_opens hopens
  | posed hp =>
    cases hp with
    | get | search => cases hv
    | update hpresents hd =>
      obtain ⟨rfl, rfl⟩ := hv.unique (.update hpresents)
      cases hd.eq_of_opens hopens

/-- **Every way of a call reports its failures.** -/
theorem CallRun.reportsFailures (h : CallRun i call d e) :
    ReportsFailures i call d (clientOutcome e) where
  refused := by
    intro request response hx hbearer hstatus
    obtain ⟨-, draft, es, outcome, -, hs, ho, rfl⟩ :=
      h.exists_sendRun hx (not_isAuxiliary_of_bearer hbearer)
    cases hs with
    | unanswered _ hr => cases hr
    | refused => exact ho.seen rfl
    | accepted _ hsuccess => exact absurd hsuccess hstatus
  unreached := by
    intro request failure hx hbearer
    obtain ⟨-, draft, es, outcome, -, hs, ho, rfl⟩ :=
      h.exists_sendRun hx (not_isAuxiliary_of_bearer hbearer)
    cases hs with
    | unanswered _ hr => cases hr
    | failed => exact ho.seen rfl
  unbuilt := by
    intro draft failure hp hbuild
    obtain ⟨es, outcome, hs, ho, rfl⟩ := h.sendRun_of_poses hp
    cases hs with
    | unbuilt hbuild' =>
      obtain rfl := Except.error.inj (hbuild.symm.trans hbuild')
      exact ho.seen rfl
  unreadable := by
    intro request response failure hx hbearer hsuccess hu
    obtain ⟨-, draft, es, outcome, -, hs, ho, rfl⟩ :=
      h.exists_sendRun hx (not_isAuxiliary_of_bearer hbearer)
    cases hs with
    | unanswered _ hr => cases hr
    | refused _ hstatus => exact absurd hsuccess hstatus
    | accepted => exact ho.seen (ho.of_undecodable hu)
  unserved := fun failure hopens ↦ h.seen_of_unserved hopens
  unverified := fun token scope failure hv hopens ↦ h.seen_of_unverified hv hopens

end Instance

/-- **Failures of the directory reach the client** with the right kind and with the directory's text,
for every call of every instance, whatever the world answers; and the text is trimmed and not
blank. -/
theorem Instance.call_reportsFailures {σ : Type} (i : Instance) (call : Service.Call)
    (respond : σ → (op : Effect) → Program.Reply op.Answer × σ) (s : σ) :
    i.ReportsFailures call ((i.program call).dialogue respond s)
        (Client.callProgram false call.name (i.program call) respond s).outcome ∧
      ∀ status body, Text.IsTrimmed (ErrorBody.explain status body) := by
  refine ⟨?_, ErrorBody.explain_isTrimmed⟩
  have hrun := callRun_of_conducts (Program.conducts_run respond (i.program call) s)
  have houtcome : (Client.callProgram false call.name (i.program call) respond s).outcome =
      clientOutcome ((i.program call).run respond s).ending :=
    Client.Result.outcome_ofRun
  rw [houtcome]
  exact hrun.reportsFailures

end AccountDirectory
