import AccountDirectory.Proofs.Interleaving.Moves

/-!
# The stages of a call for a service token

Without its log entries a call for a service token is a short program in normal form
(`getToken_silent`), so it stands at one of ten **stages**, each with what the call has learned so
far and still needs. `Moved` lists what a move does to the stages and to the shared state when all
calls are calls for a service token, and `moved_of_change` is the inversion; laws about them are
case analyses on `Moved`.
-/

namespace AccountDirectory

open Program (silent silent_bind)
open Interleaving (State Standing)

/-- Reads the answer of the token endpoint. -/
def GrantedToken.ofAnswer :
    Except Http.TransportFailure Http.Response → Except CredentialError GrantedToken
  | .error e => .error (.request e.message)
  | .ok response =>
    if Http.isSuccess response.status then
      match GrantedToken.ofOctets? response.body with
      | some granted => .ok granted
      | none => .error (.decode TokenSource.unreadable)
    else .error (.rejected response.status (ErrorBody.explain response.status response.text))

namespace TokenSource

/-! ### The program in normal form -/

variable (source : TokenSource)

/-- Releases the lock and returns. -/
def leave (outcome : Except CredentialError String) : Procedure (Except CredentialError String) :=
  .ask .unlockToken fun _ ↦ .done outcome

/-- Keeps a token and leaves. -/
def keep (granted : GrantedToken) : Procedure (Except CredentialError String) :=
  .ask .steadyClock fun now ↦
    .ask (.storeToken (source.entry granted now)) fun _ ↦ leave (.ok granted.token)

/-- Goes on with the answer of the token endpoint. -/
def settle (answer : Except Http.TransportFailure Http.Response) :
    Procedure (Except CredentialError String) :=
  match GrantedToken.ofAnswer answer with
  | .ok granted => source.keep granted
  | .error failure => leave (.error failure)

/-- Asks the token endpoint. -/
def demand : Procedure (Except CredentialError String) :=
  match source.request with
  | .ok request => .ask (.exchange request) source.settle
  | .error failure => leave (.error (.request failure.message))

/-- Checks the kept token. -/
def check (entry : CachedToken) : Procedure (Except CredentialError String) :=
  .ask .steadyClock fun now ↦
    if now < entry.refreshAt then leave (.ok entry.token) else source.demand

/-- Looks for a kept token. -/
def look : Procedure (Except CredentialError String) :=
  .ask .cachedToken fun found ↦
    match found with
    | some entry => source.check entry
    | none => source.demand

variable {source}

/-- What comes after a step towards a token. -/
def release (outcome : Except CredentialError String) :
    Procedure (Except CredentialError String) := do
  Procedure.call .unlockToken
  pure outcome

theorem silent_notes (notes : List LogEntry) :
    (notes.forM fun e ↦ ExceptT.lift (Procedure.log e) : Step Unit).run.silent =
      .done (.ok ()) := by
  induction notes with
  | nil => rfl
  | cons entry rest ih => exact ih

theorem silent_fetch : source.fetch.run.silent =
    match source.request with
    | .ok request => .ask (.exchange request) fun answer ↦ .done (GrantedToken.ofAnswer answer)
    | .error failure => .done (.error (.request failure.message)) := by
  rw [fetch, ExceptT.run_bind_lift, Procedure.exchange, request]
  rcases Http.Request.build .post source.address none (some source.requestBody) with e | request
  · rfl
  · show Program.ask _ _ = .ask _ _
    congr 1
    funext answer
    rcases answer with failure | response
    · rfl
    · show silent (ExceptT.run (ite (Http.isSuccess response.status = true) _ _ : Step _)) = _
      rw [GrantedToken.ofAnswer]
      split_ifs
      · rcases GrantedToken.ofOctets? response.body <;> rfl
      · rfl

/-- What follows a token that was granted. -/
theorem silent_granted (granted : GrantedToken) :
    ((do
      (kindEntries granted).forM fun e ↦ ExceptT.lift (Procedure.log e)
      let now ← ExceptT.lift (Procedure.call .steadyClock)
      ExceptT.lift (Procedure.log
        (.event .debug "M2M token refreshed" [("expires_in", toString granted.expiresIn)]))
      ExceptT.lift (Procedure.call (.storeToken (source.entry granted now)))
      pure granted.token : Step String).run >>= release).silent = source.keep granted := by
  rw [silent_bind, ExceptT.run_bind, silent_bind, silent_notes]
  rfl

theorem silent_refresh : (source.refresh.run >>= release).silent = source.demand := by
  rw [refresh, ExceptT.run_bind, bind_assoc, silent_bind, silent_fetch, demand]
  rcases source.request with failure | request
  · rfl
  · show Program.ask _ _ = .ask _ _
    congr 1
    funext answer
    rw [settle]
    show silent _ = _
    rcases GrantedToken.ofAnswer answer with failure | granted
    · rfl
    · exact silent_granted granted

theorem keptOrNew_run : source.keptOrNew.run =
    kept >>= fun found ↦ found.elim source.refresh.run fun token ↦ .done (.ok token) := by
  rw [keptOrNew, ExceptT.run_bind_lift]
  show Program.bind kept _ = Program.bind kept _
  congr 1
  funext found
  cases found <;> rfl

/-- **A call for a service token in normal form.** -/
theorem getToken_silent : source.getToken.silent = .ask .lockToken fun _ ↦ source.look := by
  have hrest : ∀ found : Option String,
      ((found.elim source.refresh.run fun token ↦ .done (.ok token)) >>= release).silent =
        found.elim source.demand fun token ↦ leave (.ok token) := by
    intro found
    cases found with
    | none => exact silent_refresh
    | some token => rfl
  show Program.ask _ (fun _ ↦ (source.keptOrNew.run >>= release).silent) = _
  congr 1
  funext _
  rw [keptOrNew_run, bind_assoc, silent_bind]
  simp only [hrest]
  show Program.ask _ _ = Program.ask _ _
  congr 1
  funext found
  rcases found with - | entry
  · rfl
  · show Program.ask _ _ = Program.ask _ _
    congr 1
    funext now
    show (if now < entry.refreshAt then some entry.token else none).elim source.demand _ = _
    split_ifs <;> rfl

/-! ### Stages -/

/-- **Where a call for a service token stands**, with what it has learned so far. -/
inductive Stage
  /-- It waits for the lock. -/
  | outside
  | entered
  /-- It has found a kept token. -/
  | looked (entry : CachedToken)
  | asking (request : Http.Request)
  | awaiting (request : Http.Request)
  /-- It has been granted a token. -/
  | granted (granted : GrantedToken)
  /-- And it has read the clock. -/
  | stamped (granted : GrantedToken) (now : Nat)
  | leaving (outcome : Except CredentialError String)
  | left (outcome : Except CredentialError String)
  | dropped

namespace Stage

/-- A call at this stage has the lock. -/
def IsInside : Stage → Prop
  | outside | left _ | dropped => False
  | _ => True

/-- A call at this stage has been granted a token and has not kept it yet. -/
def IsPending : Stage → Prop
  | granted _ | stamped _ _ => True
  | _ => False

/-- A call at this stage has a token to return. -/
def HasToken : Stage → Prop
  | leaving (.ok _) | left (.ok _) => True
  | _ => False

end Stage

variable (source)

/-- What a call at a stage has still to do. -/
def standing : Stage → Standing (Except CredentialError String)
  | .outside => .running (.ask .lockToken fun _ ↦ source.look)
  | .entered => .running source.look
  | .looked entry => .running (source.check entry)
  | .asking request => .running (.ask (.exchange request) source.settle)
  | .awaiting request => .waiting request source.settle
  | .granted granted => .running (source.keep granted)
  | .stamped granted now =>
    .running (.ask (.storeToken (source.entry granted now)) fun _ ↦ leave (.ok granted.token))
  | .leaving outcome => .running (leave outcome)
  | .left outcome => .running (.done outcome)
  | .dropped => .dropped

/-- The stage at which a call needs a new token. -/
def demanding : Stage :=
  match source.request with
  | .ok request => .asking request
  | .error failure => .leaving (.error (.request failure.message))

/-- The stage after a look. -/
def afterLook : Option CachedToken → Stage
  | some entry => .looked entry
  | none => source.demanding

/-- The stage after a check. -/
def afterCheck (entry : CachedToken) (now : Nat) : Stage :=
  if now < entry.refreshAt then .leaving (.ok entry.token) else source.demanding

/-- The stage after an answer. -/
def afterAnswer (answer : Except Http.TransportFailure Http.Response) : Stage :=
  match GrantedToken.ofAnswer answer with
  | .ok granted => .granted granted
  | .error failure => .leaving (.error failure)

theorem standing_demanding : source.standing source.demanding = .running source.demand := by
  rw [demanding, demand]
  rcases source.request with failure | request <;> rfl

theorem standing_afterLook (found : Option CachedToken) :
    source.standing (source.afterLook found) =
      .running (match found with
        | some entry => source.check entry
        | none => source.demand) := by
  rcases found with - | entry
  · exact source.standing_demanding
  · rfl

theorem standing_afterCheck (entry : CachedToken) (now : Nat) :
    source.standing (source.afterCheck entry now) =
      .running (if now < entry.refreshAt then leave (.ok entry.token) else source.demand) := by
  rw [afterCheck]
  split_ifs
  · rfl
  · exact source.standing_demanding

theorem standing_afterAnswer (answer : Except Http.TransportFailure Http.Response) :
    source.standing (afterAnswer answer) = .running (source.settle answer) := by
  rw [afterAnswer, settle]
  rcases GrantedToken.ofAnswer answer with failure | granted <;> rfl

/-! ### What a move does -/

/-- Each call stands at its stage. -/
def Stands (s : State (Except CredentialError String)) (f : Nat → Stage) : Prop :=
  ∀ i, s.calls i = source.standing (f i)

/-- A call comes to another stage, by an act. -/
def turn (s : State (Except CredentialError String)) (i : Nat) (stage : Stage)
    (act : Interleaving.Act) : State (Except CredentialError String) :=
  s.put i (source.standing stage) act

variable {source}

/-- **What a move does** to the stages and to what is shared. -/
inductive Moved (source : TokenSource) (s : State (Except CredentialError String))
    (f : Nat → Stage) : State (Except CredentialError String) → (Nat → Stage) → Prop
  | idle : Moved source s f s f
  | passed (duration : Nat) : Moved source s f { s with clock := s.clock + duration } f
  | locked {i} (hi : f i = .outside) (h : s.holder = none) :
    Moved source s f
      (source.turn { s with holder := some i } i .entered (.did .lockToken ()))
      (Function.update f i .entered)
  | looked {i} (hi : f i = .entered) :
    Moved source s f (source.turn s i (source.afterLook s.token) (.did .cachedToken s.token))
      (Function.update f i (source.afterLook s.token))
  | checked {i entry} (hi : f i = .looked entry) :
    Moved source s f
      (source.turn s i (source.afterCheck entry s.clock) (.did .steadyClock s.clock))
      (Function.update f i (source.afterCheck entry s.clock))
  | sent {i request} (hi : f i = .asking request) :
    Moved source s f (source.turn s i (.awaiting request) (.sent request))
      (Function.update f i (.awaiting request))
  | answered {i request} (hi : f i = .awaiting request) (answer) :
    Moved source s f (source.turn s i (afterAnswer answer) (.got request answer))
      (Function.update f i (afterAnswer answer))
  | stamped {i granted} (hi : f i = .granted granted) :
    Moved source s f (source.turn s i (.stamped granted s.clock) (.did .steadyClock s.clock))
      (Function.update f i (.stamped granted s.clock))
  | stored {i granted now} (hi : f i = .stamped granted now) :
    Moved source s f
      (source.turn { s with token := some (source.entry granted now) } i
        (.leaving (.ok granted.token)) (.did (.storeToken (source.entry granted now)) ()))
      (Function.update f i (.leaving (.ok granted.token)))
  | unlocked {i outcome} (hi : f i = .leaving outcome) :
    Moved source s f
      (source.turn { s with holder := none } i (.left outcome) (.did .unlockToken ()))
      (Function.update f i (.left outcome))
  | dropped {i} (hi : f i = .outside ∨ ∃ request, f i = .awaiting request) :
    Moved source s f
      (source.turn { s with holder := s.holder.filter (· ≠ i) } i .dropped .dropped)
      (Function.update f i .dropped)

variable {s s' : State (Except CredentialError String)} {f : Nat → Stage}

/-- The other calls stay where they are. -/
theorem Stands.turn {t : State (Except CredentialError String)} (h : source.Stands s f)
    (hcalls : t.calls = s.calls) (i : Nat) (stage : Stage) (act : Interleaving.Act) :
    source.Stands (source.turn t i stage act) (Function.update f i stage) := by
  intro k
  show Function.update t.calls i (source.standing stage) k = _
  rw [hcalls]
  by_cases hk : k = i
  · subst hk
    rw [Function.update_self, Function.update_self]
  · rw [Function.update_of_ne hk, Function.update_of_ne hk]
    exact h k

/-- A call that goes on as at a stage has come to that stage. -/
theorem exists_moved {t : State (Except CredentialError String)} {i : Nat} {stage : Stage}
    {rest : Procedure (Except CredentialError String)} {act : Interleaving.Act}
    (h : source.Stands s f) (hcalls : t.calls = s.calls)
    (hstage : source.standing stage = .running rest)
    (hm : Moved source s f (source.turn t i stage act) (Function.update f i stage)) :
    ∃ f', Moved source s f (t.put i (.running rest) act) f' ∧
      source.Stands (t.put i (.running rest) act) f' := by
  rw [← hstage]
  exact ⟨_, hm, h.turn hcalls i stage act⟩

/-- A call that does its next operation is at the next stage. -/
theorem moved_of_performs {i : Nat} {op : Effect} {next : op.Answer → Procedure _} {a : op.Answer}
    (h : source.Stands s f) (hi : source.standing (f i) = .running (.ask op next))
    (hp : s.Performs i op a s') :
    ∃ f', Moved source s f (s'.put i (.running (next a)) (.did op a)) f' ∧
      source.Stands (s'.put i (.running (next a)) (.did op a)) f' := by
  cases hst : f i with
  | outside =>
    rw [hst] at hi
    cases hi
    cases hp with
    | lockToken hfree => exact exists_moved h rfl rfl (.locked hst hfree)
  | entered =>
    rw [hst] at hi
    cases hi
    cases hp with
    | cachedToken =>
      exact exists_moved h rfl (source.standing_afterLook s.token) (.looked hst)
  | looked entry =>
    rw [hst] at hi
    cases hi
    cases hp with
    | steadyClock =>
      exact exists_moved h rfl (source.standing_afterCheck entry s.clock) (.checked hst)
  | asking request =>
    rw [hst] at hi
    cases hi
    cases hp
  | granted granted =>
    rw [hst] at hi
    cases hi
    cases hp with
    | steadyClock => exact exists_moved h rfl rfl (.stamped hst)
  | stamped granted now =>
    rw [hst] at hi
    cases hi
    cases hp with
    | storeToken => exact exists_moved h rfl rfl (.stored hst)
  | leaving outcome =>
    rw [hst] at hi
    cases hi
    cases hp with
    | unlockToken => exact exists_moved h rfl rfl (.unlocked hst)
  | awaiting | left | dropped =>
    rw [hst] at hi
    cases hi

/-- **Each move does one of these**, and each call stands at its new stage. -/
theorem moved_of_change (h : source.Stands s f) (hc : s.Change s') :
    ∃ f', Moved source s f s' f' ∧ source.Stands s' f' := by
  cases hc with
  | idle => exact ⟨f, .idle, h⟩
  | passed duration => exact ⟨f, .passed duration, h⟩
  | @did i op next a s' hi hp =>
    rw [h i] at hi
    exact moved_of_performs h hi hp
  | @sent i request next hi =>
    rw [h i] at hi
    cases hst : f i with
    | asking request' =>
      rw [hst] at hi
      cases hi
      exact ⟨_, .sent hst, h.turn rfl i (.awaiting request) (.sent request)⟩
    | _ =>
      rw [hst] at hi
      cases hi
  | @got i request next hi answer =>
    rw [h i] at hi
    cases hst : f i with
    | awaiting request' =>
      rw [hst] at hi
      cases hi
      exact exists_moved h rfl (source.standing_afterAnswer answer) (.answered hst answer)
    | _ =>
      rw [hst] at hi
      cases hi
  | @dropped i hi =>
    rw [h i] at hi
    have hst : f i = .outside ∨ ∃ request, f i = .awaiting request := by
      cases hst : f i with
      | outside => exact .inl rfl
      | awaiting request => exact .inr ⟨request, rfl⟩
      | _ =>
        rw [hst] at hi
        cases hi
    exact ⟨_, .dropped hst, h.turn rfl i .dropped .dropped⟩

/-- At the beginning all calls are outside. -/
theorem stands_initial :
    source.Stands (State.initial fun _ ↦ source.getToken) fun _ ↦ .outside :=
  fun _ ↦ congrArg Standing.running source.getToken_silent

end TokenSource

end AccountDirectory
