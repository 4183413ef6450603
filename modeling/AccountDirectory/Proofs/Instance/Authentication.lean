import AccountDirectory.Proofs.CommandLine.Resolve
import AccountDirectory.Proofs.Instance.Calls
import AccountDirectory.Proofs.Interleaving.Requests
import AccountDirectory.Proofs.TokenSource.Stages

/-!
# Where bearer tokens come from

Any number of calls run at the same time over one cache. Each request that they send to the directory
carries a bearer token, and there are two places from which it can come (`calls_authenticate`).

* **The caller presents it.** A read takes a token that is not empty, an update one that is not
  blank. A token of blanks is none to an update and one to a read.
* **The token endpoint granted it**, to the same call or to an earlier one that cached it. It is taken
  as it was granted, so a blank one is cached and used as well.

So a request with a blank bearer token is possible in two ways, and in no other
(`not_always_authenticated`).

What a call has in its hands is read off the dialogue that it has held, and what the cache had for it
off the history.
-/

namespace AccountDirectory

open Program (Conducts Asks asks_ask_iff not_asks_done conducts_done_iff conducts_ask_iff)

/-! ### What the source of service tokens hears -/

namespace Program

variable {Op : Type} {Answer : Op → Type} {α : Type}

/-- What stands in a dialogue was asked for after what stands before it. -/
theorem Conducts.asks {p : Program Op Answer α} {d₁ d₂ : List (Exchange Op Answer)} {op : Op}
    {r : Reply (Answer op)} {e : Ending α} (h : Conducts p (d₁ ++ ⟨op, r⟩ :: d₂) e) :
    Asks p d₁ op := by
  induction p generalizing d₁ with
  | done a =>
    have hnil := (conducts_done_iff.1 h).1
    exact absurd hnil (List.append_ne_nil_of_right_ne_nil _ (List.cons_ne_nil _ _))
  | note entry rest ih => exact asks_note_iff.2 (ih (conducts_note_iff.1 h))
  | ask op' next ih =>
    rcases d₁ with - | ⟨x, d₁⟩
    · obtain ⟨r', hd, -⟩ | ⟨a, d', hd, -⟩ := conducts_ask_iff.1 h
      · exact asks_ask_iff.2 (.inl ⟨rfl, (Exchange.mk.inj (List.cons.inj hd).1).1⟩)
      · exact asks_ask_iff.2 (.inl ⟨rfl, (Exchange.mk.inj (List.cons.inj hd).1).1⟩)
    · obtain ⟨r', hd, -⟩ | ⟨a, d', hd, hn⟩ := conducts_ask_iff.1 h
      · exact absurd (List.cons.inj hd).2
          (List.append_ne_nil_of_right_ne_nil _ (List.cons_ne_nil _ _))
      · obtain ⟨rfl, rfl⟩ := List.cons.inj hd
        exact asks_ask_iff.2 (.inr ⟨a, d₁, rfl, ih a hn⟩)

end Program

namespace TokenSource

/-- What the source gives out: an entry that it stores, and a token that it yields. -/
inductive Output
  | stored (entry : CachedToken)
  | yielded (token : String)

/-- The token that is given out. -/
def Output.token : Output → String
  | .stored entry => entry.token
  | .yielded token => token

variable {source : TokenSource} {d d' : List Procedure.Exchange} {entry : CachedToken}
  {token : String} {out : Output}

/-- **The token endpoint granted the token** in an answer of the dialogue. -/
def Grants (source : TokenSource) (d : List Procedure.Exchange) (token : String) : Prop :=
  ∃ request answer granted, ⟨.exchange request, .answer answer⟩ ∈ d ∧
    source.request = .ok request ∧ GrantedToken.ofAnswer answer = .ok granted ∧
      granted.token = token

/-- **The token was found in the cache.** -/
def Keeps (d : List Procedure.Exchange) (token : String) : Prop :=
  ∃ entry : CachedToken, ⟨.cachedToken, .answer (some entry)⟩ ∈ d ∧ entry.token = token

theorem Grants.mono (h : Grants source d token) (hd : d ⊆ d') : Grants source d' token := by
  obtain ⟨request, answer, granted, hx, hrest⟩ := h
  exact ⟨request, answer, granted, hd hx, hrest⟩

theorem Grants.cons (h : Grants source d token) (x : Procedure.Exchange) :
    Grants source (x :: d) token :=
  h.mono (List.subset_cons_self x d)

/-- **A step of the source gives this out** after the dialogue. -/
def Gives (p : Procedure (Except CredentialError String)) (d : List Procedure.Exchange) :
    Output → Prop
  | .stored entry => Asks p d (.storeToken entry)
  | .yielded token => Conducts p d (.finished (.ok token))

theorem Gives.silent {p : Procedure (Except CredentialError String)} (h : Gives p d out) :
    Gives p.silent d out := by
  cases out with
  | stored | yielded => exact Program.conducts_silent_iff.2 h

/-- An operation gives something out if it is to store that, and else what comes after its answer
does. -/
theorem gives_ask {op : Effect} {next : op.Answer → Procedure (Except CredentialError String)}
    (h : Gives (.ask op next) d out) :
    (∃ entry, op = .storeToken entry ∧ out = .stored entry) ∨
      ∃ a d', d = ⟨op, .answer a⟩ :: d' ∧ Gives (next a) d' out := by
  cases out with
  | stored entry =>
    obtain ⟨-, hop⟩ | hlater := asks_ask_iff.1 h
    · exact .inl ⟨entry, hop.symm, rfl⟩
    · exact .inr hlater
  | yielded token =>
    obtain ⟨r, rfl, hr⟩ | hlater := conducts_ask_iff.1 h
    · cases hr
    · exact .inr hlater

theorem Gives.of_ask {op : Effect} {next : op.Answer → Procedure (Except CredentialError String)}
    (h : Gives (.ask op next) d out) (hop : ∀ entry, op ≠ .storeToken entry) :
    ∃ a d', d = ⟨op, .answer a⟩ :: d' ∧ Gives (next a) d' out := by
  obtain ⟨entry, hstore, -⟩ | hlater := gives_ask h
  · exact absurd hstore (hop entry)
  · exact hlater

/-- A call that leaves gives out its own token. -/
theorem gives_leave {outcome : Except CredentialError String} (h : Gives (leave outcome) d out) :
    ∃ token, outcome = .ok token ∧ out = .yielded token := by
  obtain ⟨_, d', rfl, hend⟩ := h.of_ask fun _ hop ↦ by cases hop
  cases out with
  | stored => exact absurd hend not_asks_done
  | yielded token =>
    exact ⟨token, (Program.Ending.finished.inj (conducts_done_iff.1 hend).2).symm, rfl⟩

/-- What is stored and yielded is the token that was granted. -/
theorem token_eq_of_gives_keep {granted : GrantedToken} (h : Gives (source.keep granted) d out) :
    granted.token = out.token := by
  obtain ⟨now, d', rfl, hstore⟩ := h.of_ask fun _ hop ↦ by cases hop
  obtain ⟨entry, hop, rfl⟩ | ⟨_, d'', rfl, hleave⟩ := gives_ask hstore
  · rw [Output.token, ← Effect.storeToken.inj hop, TokenSource.entry]
  · obtain ⟨token, hok, rfl⟩ := gives_leave hleave
    exact Except.ok.inj hok

/-- A grant is an answer to the source's own request. -/
theorem grants_of_gives_demand (h : Gives source.demand d out) : Grants source d out.token := by
  rw [demand] at h
  cases hb : source.request with
  | error failure =>
    rw [hb] at h
    obtain ⟨token, hok, -⟩ := gives_leave h
    cases hok
  | ok request =>
    rw [hb] at h
    obtain ⟨answer, d', rfl, hsettle⟩ := h.of_ask fun _ hop ↦ by cases hop
    rw [settle] at hsettle
    cases ha : GrantedToken.ofAnswer answer with
    | error failure =>
      rw [ha] at hsettle
      obtain ⟨token, hok, -⟩ := gives_leave hsettle
      cases hok
    | ok granted =>
      rw [ha] at hsettle
      exact ⟨request, answer, granted, List.mem_cons_self, hb, ha, token_eq_of_gives_keep hsettle⟩

/-- **The source gives out what it was granted**, except that it yields what it has kept. -/
theorem grants_or_keeps_of_gives (h : Gives source.getToken d out) :
    Grants source d out.token ∨ ∃ token, out = .yielded token ∧ Keeps d token := by
  have hsilent := h.silent
  rw [getToken_silent] at hsilent
  obtain ⟨_, d₁, rfl, hlook⟩ := hsilent.of_ask fun _ hop ↦ by cases hop
  obtain ⟨found, d₂, rfl, hfound⟩ := hlook.of_ask fun _ hop ↦ by cases hop
  cases found with
  | none => exact .inl (((grants_of_gives_demand hfound).cons _).cons _)
  | some kept =>
    obtain ⟨now, d₃, rfl, hchecked⟩ := hfound.of_ask fun _ hop ↦ by cases hop
    split_ifs at hchecked with hgood
    · obtain ⟨token, hok, rfl⟩ := gives_leave hchecked
      refine .inr ⟨token, rfl, kept, List.mem_cons_of_mem _ List.mem_cons_self, ?_⟩
      exact Except.ok.inj hok
    · exact .inl ((((grants_of_gives_demand hchecked).cons _).cons _).cons _)

/-- **The source stores what it was granted**, and nothing else. -/
theorem grants_of_asks (h : Asks source.getToken d (.storeToken entry)) :
    Grants source d entry.token := by
  have hgives : Gives source.getToken d (.stored entry) := h
  obtain hgrants | ⟨token, hout, -⟩ := grants_or_keeps_of_gives hgives
  · exact hgrants
  · cases hout

/-- **The source yields what it was granted or has kept.** -/
theorem grants_or_keeps_of_conducts
    (h : Conducts source.getToken d (.finished (.ok token))) :
    Grants source d token ∨ Keeps d token := by
  have hgives : Gives source.getToken d (.yielded token) := h
  obtain hgrants | ⟨token', hout, hkeeps⟩ := grants_or_keeps_of_gives hgives
  · exact .inl hgrants
  · obtain rfl := Output.yielded.inj hout
    exact .inr hkeeps

end TokenSource

/-! ### What a call asks for -/

/-- **The caller shows the token**: to a read one that is not empty, to an update one that is not
blank. -/
inductive Service.Call.Shows : Service.Call → String → Prop
  | get {user : User} {token : String} (h : user.token = some token) (hne : token ≠ "") :
    Shows (.getUser user) token
  | search {user : User} {name token : String} (h : user.token = some token) (hne : token ≠ "") :
    Shows (.searchUser user name) token
  | update {user : User} {token : String} (h : user.token = some token)
    (hb : ¬Text.isBlankText token) : Shows (.updateUser user) token

namespace Instance

open Service (Presents)

variable {i : Instance} {call : Service.Call} {d : List Procedure.Exchange}

/-- **What a call asks for** after a dialogue is asked for by the source of service tokens, or by
the verifier, or it is the request that the call has come to. -/
theorem asks_of_program {op : Effect} (h : Asks (i.program call) d op) :
    Asks i.tokens.getToken d op ∨
      (∃ token scope, Asks (i.verifier.verify token scope).run d op) ∨
        ∃ draft request, Poses i call d draft ∧ draft.build = .ok request ∧
          op = .exchange request := by
  rw [Asks] at h
  generalize hD : d ++ [⟨op, .interrupted⟩] = D at h
  generalize he : Program.Ending.interrupted = e at h
  cases callRun_of_conducts h with
  | silent | verified => cases he
  | unserved _ hd hs =>
    subst he hD
    obtain hs | ⟨failure, -, hf⟩ := hs
    · cases hs
      exact .inl hd
    · cases hf
  | unverified _ hd hs =>
    subst he hD
    obtain hs | ⟨failure, -, hf⟩ := hs
    · cases hs
      exact .inr (.inl ⟨_, _, hd⟩)
    · cases hf
  | @posed draft outcome d₁ d₂ e hp hs =>
    cases hs with
    | @unanswered request r e hb hr =>
      obtain ⟨rfl, hx⟩ := List.append_inj' hD rfl
      cases List.singleton_inj.1 hx
      exact .inr (.inr ⟨draft, request, hp, hb, rfl⟩)
    | _ => cases he

/-- Only the source of service tokens stores one. -/
theorem asks_getToken_of_storeToken {entry : CachedToken}
    (h : Asks (i.program call) d (.storeToken entry)) :
    Asks i.tokens.getToken d (.storeToken entry) := by
  obtain h | ⟨token, scope, h⟩ | ⟨draft, request, -, -, hop⟩ := asks_of_program h
  · exact h
  · exact (h.allowed (i.verifier.verify_does token scope)).elim
  · cases hop

/-- The token of a read is its caller's own or one that the source yields. -/
theorem Bears.own_or_yields {user : User} {token : String} (h : Bears i user.token token d) :
    (user.token = some token ∧ token ≠ "") ∨
      Conducts i.tokens.getToken d (.finished (.ok token)) := by
  cases h with
  | own hk => exact .inl (Service.filter_token_eq_some_iff.1 hk)
  | service _ hd => exact .inr hd

/-- A request goes out without a bearer token to the source's or the verifier's own address, or with
one that the caller shows or that the source of service tokens yields. -/
theorem authenticated_of_asks {request : Http.Request}
    (h : Asks (i.program call) d (.exchange request)) :
    i.IsAuxiliary request ∨ ∃ token, request.bearer = some token ∧
      (call.Shows token ∨ Conducts i.tokens.getToken d (.finished (.ok token))) := by
  obtain h | ⟨token, scope, h⟩ | ⟨draft, built, hp, hbuilt, hop⟩ := asks_of_program h
  · exact .inl (.inl (h.allowed i.tokens.getToken_obeys))
  · exact .inl (.inr (h.allowed (i.verifier.verify_obeys token scope)))
  have hbearer : request.bearer = some draft.token := by
    rw [Effect.exchange.inj hop]
    exact Http.Request.bearer_of_build hbuilt
  refine .inr ⟨draft.token, hbearer, ?_⟩
  cases hp with
  | get _ hb => exact hb.own_or_yields.imp_left fun ⟨ht, hne⟩ ↦ .get ht hne
  | search _ _ hb => exact hb.own_or_yields.imp_left fun ⟨ht, hne⟩ ↦ .search ht hne
  | update hp => exact .inl (.update hp.1 hp.2)

end Instance

/-! ### What the history knows of tokens -/

namespace Interleaving

open TokenSource (Grants Keeps)

/-- **The token endpoint granted the token** to some call of the history. -/
def GrantedIn (source : TokenSource) (history : List Event) (token : String) : Prop :=
  ∃ e ∈ history, ∃ request answer granted, e.act = .got request answer ∧
    source.request = .ok request ∧ GrantedToken.ofAnswer answer = .ok granted ∧
      granted.token = token

variable {source : TokenSource} {token : String} {history history' : List Event}

theorem GrantedIn.mono (h : GrantedIn source history token) (hs : history ⊆ history') :
    GrantedIn source history' token := by
  obtain ⟨e, he, hrest⟩ := h
  exact ⟨e, hs he, hrest⟩

section Schedule

variable {i : Instance} {calls : Nat → Service.Call}
  {s : State (Except DirectoryError User)}

/-- A grant that a call has heard of is one of the history. -/
theorem grantedIn_of_grants {n : Nat} {later earlier : List Event} (hr : Remembers s)
    (hs : s.history = later ++ earlier) (h : Grants source (own n earlier) token) :
    GrantedIn source earlier token := by
  obtain ⟨request, answer, granted, hx, hrest⟩ := h
  obtain ⟨e, he, -, hact⟩ := mem_own_iff.1 hx
  obtain ⟨x, y, rfl⟩ := List.append_of_mem he
  have hsplit : s.history = (later ++ x) ++ e :: y := by rw [hs, List.append_assoc]
  exact ⟨e, he, request, answer, granted, (hr.fits _ _ _ hsplit).eq_got hact, hrest⟩

/-- **What is stored was granted before.** -/
theorem grantedIn_of_stored {later earlier : List Event} {e : Event} {entry : CachedToken}
    (hr : Remembers s) (ht : Traced (fun n ↦ i.program (calls n)) s)
    (hs : s.history = later ++ e :: earlier) (he : e.act.storedToken? = some entry) :
    GrantedIn i.tokens earlier entry.token := by
  obtain ⟨d, ending, hprefix, hd⟩ := ht.exists_conducts e.caller
  obtain ⟨rest, rfl⟩ := hprefix
  have hx : e.exchangeOf e.caller = some ⟨.storeToken entry, .answer ()⟩ := by
    rw [Event.exchangeOf, if_pos rfl]
    exact exchange?_of_storedToken? he
  rw [hs, own_append, own_cons, hx, Option.toList_some, List.append_assoc, List.append_assoc,
    List.singleton_append] at hd
  have hasks := Instance.asks_getToken_of_storeToken hd.asks
  have hsplit : s.history = (later ++ [e]) ++ earlier := by simp [hs]
  exact grantedIn_of_grants hr hsplit (TokenSource.grants_of_asks hasks)

/-- What is cached was granted before. -/
theorem grantedIn_of_lastToken {later earlier : List Event} {entry : CachedToken}
    (hr : Remembers s) (ht : Traced (fun n ↦ i.program (calls n)) s)
    (hs : s.history = later ++ earlier) (h : lastToken earlier = some entry) :
    GrantedIn i.tokens earlier entry.token := by
  obtain ⟨e, he, hstored⟩ := List.exists_of_findSome?_eq_some h
  obtain ⟨x, y, rfl⟩ := List.append_of_mem he
  have hsplit : s.history = (later ++ x) ++ e :: y := by rw [hs, List.append_assoc]
  have hgranted := grantedIn_of_stored hr ht hsplit hstored
  exact hgranted.mono fun e' he' ↦ List.mem_append_right _ (List.mem_cons_of_mem _ he')

/-- **What a call has got from the source of service tokens was granted before.** -/
theorem grantedIn_of_conducts {n : Nat} {later earlier : List Event} (hr : Remembers s)
    (ht : Traced (fun n ↦ i.program (calls n)) s) (hs : s.history = later ++ earlier)
    (h : Conducts i.tokens.getToken (own n earlier) (.finished (.ok token))) :
    GrantedIn i.tokens earlier token := by
  obtain hgrants | ⟨entry, hx, rfl⟩ := TokenSource.grants_or_keeps_of_conducts h
  · exact grantedIn_of_grants hr hs hgrants
  -- the entry was cached when the call read it
  obtain ⟨e, he, -, hexchange⟩ := mem_own_iff.1 hx
  have hact : e.act = .did .cachedToken (some entry) :=
    Act.eq_did_of_exchange? hexchange fun _ h ↦ by cases h
  obtain ⟨x, y, rfl⟩ := List.append_of_mem he
  have hsplit : s.history = (later ++ x) ++ e :: y := by rw [hs, List.append_assoc]
  have hfits := hr.fits _ _ _ hsplit
  rw [Event.Fits, hact] at hfits
  have hsplit' : s.history = (later ++ x ++ [e]) ++ y := by simp [hs]
  have hgranted := grantedIn_of_lastToken hr ht hsplit' hfits.symm
  exact hgranted.mono fun e' he' ↦ List.mem_append_right _ (List.mem_cons_of_mem _ he')

/-! ### The law -/

/-- **Calls authenticate**, as a law about the state that a schedule of calls leaves. -/
structure Authenticates (i : Instance) (calls : Nat → Service.Call)
    (s : State (Except DirectoryError User)) : Prop where
  /-- Every request is one for a service token or for the key set, or it carries a bearer token that
  its caller shows or that the token endpoint granted before. -/
  carried : ∀ later e earlier, s.history = later ++ e :: earlier →
    ∀ request, e.act = .sent request → i.IsAuxiliary request ∨ ∃ token,
      request.bearer = some token ∧
        ((calls e.caller).Shows token ∨ GrantedIn i.tokens earlier token)
  /-- What is cached was granted. -/
  cached : ∀ entry, s.token = some entry → GrantedIn i.tokens s.history entry.token
  /-- So no request goes to the directory without a bearer token or with a blank one, if no read
  shows a blank one and the endpoint grants none. -/
  sound : (∀ n token, (calls n).Shows token → ¬Text.isBlankText token) →
    (∀ token, GrantedIn i.tokens s.history token → ¬Text.isBlankText token) →
      ∀ e ∈ s.history, ∀ request, e.act = .sent request → i.IsAuxiliary request ∨ ∃ token,
        request.bearer = some token ∧ ¬Text.isBlankText token

theorem authenticates_of_sendsAsked (hr : Remembers s)
    (ht : Traced (fun n ↦ i.program (calls n)) s)
    (hasks : SendsAsked (fun n ↦ i.program (calls n)) s.history) : Authenticates i calls s := by
  have hcarried : ∀ later e earlier, s.history = later ++ e :: earlier →
      ∀ request, e.act = .sent request → i.IsAuxiliary request ∨ ∃ token,
        request.bearer = some token ∧
          ((calls e.caller).Shows token ∨ GrantedIn i.tokens earlier token) := by
    intro later e earlier hs request hact
    have hsplit : s.history = (later ++ [e]) ++ earlier := by simp [hs]
    obtain haux | ⟨token, hbearer, hshows | hyields⟩ :=
      Instance.authenticated_of_asks (hasks later e earlier hs request hact)
    · exact .inl haux
    · exact .inr ⟨token, hbearer, .inl hshows⟩
    · exact .inr ⟨token, hbearer, .inr (grantedIn_of_conducts hr ht hsplit hyields)⟩
  refine ⟨hcarried, fun entry hentry ↦ ?_, fun hshows hgrants e he request hact ↦ ?_⟩
  · have hlast : lastToken s.history = some entry := hr.token.symm.trans hentry
    exact grantedIn_of_lastToken hr ht (List.nil_append _).symm hlast
  · obtain ⟨later, earlier, hs⟩ := List.append_of_mem he
    obtain haux | ⟨token, hbearer, hshown | hgranted⟩ := hcarried later e earlier hs request hact
    · exact .inl haux
    · exact .inr ⟨token, hbearer, hshows _ token hshown⟩
    · have hbefore : earlier ⊆ s.history := by
        rw [hs]
        exact fun x hx ↦ List.mem_append_right _ (List.mem_cons_of_mem _ hx)
      exact .inr ⟨token, hbearer, hgrants token (hgranted.mono hbefore)⟩

end Schedule

/-- **Where the bearer tokens of an instance come from**, in every schedule of any calls, whatever is
answered and whoever is dropped. -/
theorem calls_authenticate (i : Instance) (calls : Nat → Service.Call) (moves : List Move) :
    Authenticates i calls (State.run (fun n ↦ i.program (calls n)) moves) :=
  authenticates_of_sendsAsked (remembers_run _ moves) (traced_run _ moves) (asks_of_sent _ moves)

/-- The bearer tokens of the requests that were sent, the newest first. -/
def shownBearers (history : List Event) : List (Option String) :=
  history.filterMap fun e ↦
    match e.act with
    | .sent request => some request.bearer
    | _ => none

theorem mem_shownBearers_iff {bearer : Option String} :
    bearer ∈ shownBearers history ↔
      ∃ e ∈ history, ∃ request, e.act = .sent request ∧ request.bearer = bearer := by
  rw [shownBearers, List.mem_filterMap]
  refine exists_congr fun e ↦ and_congr_right fun _ ↦ ?_
  cases e.act <;> simp

/-- **Not every request carries a bearer token that is not blank**: a read shows the directory a
token of blanks. -/
theorem not_always_authenticated :
    ¬∀ (settings : Settings) (i : Instance) (calls : Nat → Service.Call) (moves : List Move),
      (Instance.build settings).2 = .ok i →
        ∀ e ∈ (State.run (fun n ↦ i.program (calls n)) moves).history,
          ∀ request, e.act = .sent request → i.IsAuxiliary request ∨ ∃ token,
            request.bearer = some token ∧ ¬Text.isBlankText token := by
  intro hauthenticated
  have hshown : shownBearers (State.run (fun _ ↦ CommandLine.Sample.tenant.program
      (.getUser { userId := "auth0|1", token := some " " })) [.act 0 0]).history = [some " "] := by
    decide +kernel
  have hblank : some " " ∈ shownBearers (State.run (fun _ ↦ CommandLine.Sample.tenant.program
      (.getUser { userId := "auth0|1", token := some " " })) [.act 0 0]).history := by
    rw [hshown]
    exact List.mem_cons_self
  obtain ⟨e, he, request, hact, hbearer⟩ := mem_shownBearers_iff.1 hblank
  have hbuild : (Instance.build CommandLine.Sample.settings).2 = .ok CommandLine.Sample.tenant := by
    rfl
  obtain haux | ⟨token, htoken, hne⟩ :=
    hauthenticated _ _ (fun _ ↦ .getUser { userId := "auth0|1", token := some " " }) _ hbuild e he
      request hact
  · cases hbearer.symm.trans haux.bearer_eq_none
  · obtain rfl := Option.some.inj (hbearer.symm.trans htoken)
    exact hne (by decide)

/-- What a token endpoint answers that grants a token of blanks. -/
def blankGrant : Http.Response :=
  ⟨200, "\x7b\"access_token\":\" \",\"expires_in\":3600\x7d".toUTF8.toList⟩

/-- A blank token that was granted is cached, and shown to the directory. -/
example :
    let s := State.run (fun _ ↦ CommandLine.Sample.tenant.program (.getUser { userId := "a" }))
      [.act 0 0, .act 0 0, .act 0 0, .receive 0 (.ok blankGrant), .act 0 0, .act 0 0, .act 0 0,
        .act 0 0]
    s.token = some ⟨" ", 3540000⟩ ∧ shownBearers s.history = [some " ", none] := by
  decide +kernel

end Interleaving

end AccountDirectory
