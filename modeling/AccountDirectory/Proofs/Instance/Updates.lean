import AccountDirectory.Proofs.Gateway.Metadata
import AccountDirectory.Proofs.Instance.Calls

/-!
# Metadata on its way through an update

An update takes metadata from the caller to the directory, and other metadata back: what the directory
then holds. `CarriesMetadata` says that neither is changed on the way, and `CallRun.carriesMetadata`
that this is so in every run of an update.

What comes back depends on the answer alone, and not on what was sent. There is one limit: an answer
whose metadata is nested as deep as a text may be, with one more object around it, cannot be read, and
the update has failed for its caller although the directory has changed.
-/

namespace AccountDirectory.Instance

open Json (Document)
open Json.Document (ofFields)
open Program (Conducts)
open Service (Presents)

variable {i : Instance} {user : User} {m : Metadata} {d d₁ : List Procedure.Exchange}
  {e : Service.Ending} {response : Http.Response}

/-- **The change was answered with success.** -/
def Changed (d : List Procedure.Exchange) (response : Http.Response) : Prop :=
  ∃ request : Http.Request, ⟨.exchange request, .answer (.ok response)⟩ ∈ d ∧
    request.method = .patch ∧ Http.isSuccess response.status

/-- **Metadata is carried as it is**, as a law about the dialogue `d` of an update with the metadata
`m`, and what its caller sees at the end. -/
structure CarriesMetadata {ε : Type} (m : Metadata) (d : List Procedure.Exchange)
    (seen : Option (Except ε User)) : Prop where
  /-- The body of a change spells the metadata, as its only member. -/
  sent : m.toJson.keepsDoubles → ∀ request ∈ Procedure.sent d, request.method = .patch →
    ∃ body written, request.body = some body ∧
      Document.ofText? body.compact = some (ofFields [("user_metadata", written)]) ∧
        written.value? = some m.toJson
  /-- The metadata that the answer holds is that of the user. -/
  returned : ∀ response r depth, Changed d response → HoldsMetadata response.text r depth →
    depth < Json.nestingLimit → seen = some (.ok { metadata := some r })
  /-- Metadata nested deeper than that cannot be read. -/
  unread : ∀ response r depth, Changed d response → HoldsMetadata response.text r depth →
    Json.nestingLimit ≤ depth → ∃ failure, seen = some (.error failure)
  /-- From an answer without metadata comes a user without metadata. -/
  lacking : ∀ response, Changed d response → LacksMetadata response.text →
    seen = some (.ok {})

/-! ### Outcomes -/

theorem updateOutcome_of_holdsMetadata {text : String} {r : Metadata} {depth : Nat}
    (h : HoldsMetadata text r depth) :
    updateOutcome (.ok text) =
      if depth < Json.nestingLimit then .ok { metadata := some r }
      else .error
        (.unexpected "failed to update user" (some (.gateway (.decode Gateway.unreadable)))) := by
  show updateResult (Option.join <$> Gateway.decodeBody Gateway.storedMetadata text) = _
  rw [Gateway.decodeBody_of_holdsMetadata h]
  split <;> rfl

theorem updateOutcome_of_lacksMetadata {text : String} (h : LacksMetadata text) :
    updateOutcome (.ok text) = .ok {} := by
  obtain ⟨found, hfound, hnone⟩ := Gateway.decodeBody_of_lacksMetadata h
  show updateResult (Option.join <$> Gateway.decodeBody Gateway.storedMetadata text) = _
  rw [hfound]
  show updateResult (.ok found.join) = _
  rw [hnone]
  rfl

/-! ### What a run carries -/

/-- The request for a change is sent with its metadata. -/
theorem CallRun.body_of_sent {request : Http.Request} (h : CallRun i (.updateUser user) d e)
    (hm : user.metadata = some m) (hr : request ∈ Procedure.sent d)
    (hpatch : request.method = .patch) : request.body = some (Gateway.patchBody m) := by
  obtain ⟨r, hx⟩ := Procedure.mem_sent_iff.1 hr
  obtain ⟨d₁, draft, es, outcome, hp, hs, -⟩ :=
    h.exists_sendRun hx fun haux ↦ haux.method_ne_patch hpatch
  cases hp with
  | update _ _ _ hm' =>
    obtain rfl := Option.some.inj (hm.symm.trans hm')
    exact (Http.Request.fields_of_build (Draft.build_eq_ok hs)).2.2

/-- What comes of an update is decided by the body of the answer to its change. -/
theorem CallRun.eq_of_changed (h : CallRun i (.updateUser user) d e) (hc : Changed d response) :
    e = .finished (updateOutcome (.ok response.text)) := by
  obtain ⟨request, hx, hpatch, hsuccess⟩ := hc
  obtain ⟨d₁, draft, es, outcome, -, hs, ho, rfl⟩ :=
    h.exists_sendRun hx fun haux ↦ haux.method_ne_patch hpatch
  cases ho with
  | update =>
    cases hs with
    | unanswered _ hr => cases hr
    | refused _ hstatus => exact absurd hsuccess hstatus
    | accepted => rfl

/-- **Every run of an update carries metadata as it is**, for whoever sees its results. -/
theorem CallRun.carriesMetadata {ε : Type} {seen : Option (Except ε User)}
    (h : CallRun i (.updateUser user) d e) (hm : user.metadata = some m)
    (hok : ∀ result, e = .finished (.ok result) → seen = some (.ok result))
    (herror : ∀ failure, e = .finished (.error failure) → ∃ shown, seen = some (.error shown)) :
    CarriesMetadata m d seen where
  sent := by
    intro hkeeps request hr hpatch
    exact ⟨_, _, h.body_of_sent hm hr hpatch, Gateway.ofText?_patchBody hkeeps,
      Metadata.value?_toDocument hkeeps⟩
  returned := by
    intro response r depth hc hholds hfits
    refine hok _ ?_
    rw [h.eq_of_changed hc, updateOutcome_of_holdsMetadata hholds, if_pos hfits]
  unread := by
    intro response r depth hc hholds hdeep
    have he := h.eq_of_changed hc
    rw [updateOutcome_of_holdsMetadata hholds, if_neg (Nat.not_lt.2 hdeep)] at he
    exact herror _ he
  lacking := by
    intro response hc hlacks
    refine hok _ ?_
    rw [h.eq_of_changed hc, updateOutcome_of_lacksMetadata hlacks]

/-! ### Updates that change something -/

/-- An update with an accepted token and metadata patches the directory, and then it ends. -/
theorem conducts_updateUser {service : Service} {token : String} {claims : Claims}
    (hp : Presents user token) (hd : ¬Text.isBlankText service.domain)
    (hm : user.metadata = some m) (stored : Except GatewayError (Option Metadata)) :
    Conducts (service.program (.updateUser user))
      [⟨.verify token updateScope, .answer (.ok claims)⟩,
        ⟨.patch token claims.subject m, .answer stored⟩] (.finished (updateResult stored)) := by
  rw [Service.program, Service.perform, Service.updateUser, Action.conducts_log_bind,
    Service.presents_iff.1 hp, Action.conducts_ask_bind]
  refine .inr (.inr ⟨claims, .ok claims, rfl, _, rfl, ?_⟩)
  rw [Service.conducts_requireDomain_bind]
  refine .inr ⟨hd, ?_⟩
  rw [hm, Action.conducts_ask_bind]
  cases stored with
  | error failure => exact .inr (.inl ⟨failure, .error failure, rfl, rfl, rfl⟩)
  | ok stored =>
    refine .inr (.inr ⟨stored, .ok stored, rfl, [], rfl, ?_⟩)
    rw [Action.conducts_log_bind, Action.conducts_pure]
    exact ⟨rfl, rfl⟩

/-- **An update that has come to its request can make it**, and get any answer to it. -/
theorem conducts_of_poses {draft : Draft} {request : Http.Request}
    (hp : Poses i (.updateUser user) d₁ draft) (hbuild : draft.build = .ok request)
    (hsuccess : Http.isSuccess response.status) :
    Conducts (i.program (.updateUser user))
      (d₁ ++ [⟨.exchange request, .answer (.ok response)⟩])
      (.finished (updateOutcome (.ok response.text))) := by
  cases hp with
  | @update _ token claims metadata _ hp hv hd hm =>
    have hpatch : Conducts (i.adapter (.patch token claims.subject metadata))
        [⟨.exchange request, .answer (.ok response)⟩]
        (.finished (Option.join <$> Gateway.decodeBody Gateway.storedMetadata response.text)) :=
      Gateway.conducts_patchMetadata hbuild hsuccess
    have hverify : Conducts (i.adapter (.verify token updateScope)) d₁ (.finished (.ok claims)) := hv
    exact Program.conducts_expand_iff.2
      ⟨_, conducts_updateUser hp hd hm _, .answered hverify (.answered hpatch .nil)⟩

end AccountDirectory.Instance
