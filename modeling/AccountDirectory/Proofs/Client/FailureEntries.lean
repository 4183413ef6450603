import AccountDirectory.Proofs.Client.Cancellation
import AccountDirectory.Proofs.Client.Logs
import AccountDirectory.Proofs.Entries
import AccountDirectory.Proofs.Requests

/-!
# The entry for a failure

A client writes one entry for a call that fails, and it is the last thing that happens in the call:
the entry names the operation and carries the wording of the failure. `failures_loggedOnce` says so
for every call, whoever the collaborators are and whenever the call is cancelled.

**Once.** Nobody else writes such an entry. The service and the adapters have messages of their own,
so this is a property of the programs alone (`Program.Writes`), and no run has to be looked at.

**The level.** What is a normal answer is logged for debugging, and what is a fault is logged as an
error (`DirectoryError.level?`). A cancelled call and a refused token are normal answers here, so
it is not only a missing user and invalid input that are logged for debugging
(`not_levels_narrow`).

**Outages.** When no service token can be had, or the directory cannot be reached, the operation
fails unexpectedly (`isUnexpected_of_conducts`), and that is logged as an error.
-/

namespace AccountDirectory

open Program (Happening Ending Reply Run Writes WritesT writesT_done writesT_pure writesT_throw
  writesT_forM writes_log writes_call)

/-- The messages under which a client logs a failure. -/
def Client.failureMessages : List String :=
  ["user_directory call returned", "user_directory call failed"]

/-- **The entry is that of a failure**, at whatever level and of whatever operation. -/
inductive LogEntry.IsFailure : LogEntry → Prop
  | mk {level message fields} (h : message ∈ Client.failureMessages) :
    IsFailure (.event level message fields)

/-- The entry is about something else than the failure of a call. -/
abbrev LogEntry.IsPlain (entry : LogEntry) : Prop := ¬entry.IsFailure

namespace LogEntry

theorem isPlain_span {name : String} {fields : Fields} : (span name fields).IsPlain := nofun

theorem isPlain_event {level : Level} {message : String} {fields : Fields}
    (h : message ∉ Client.failureMessages) : (event level message fields).IsPlain := by
  rintro ⟨hmessage⟩
  exact h hmessage

end LogEntry

open LogEntry (IsPlain isPlain_span isPlain_event)

/-! ### What the adapters write -/

namespace Procedure

theorem exchange_writes {P : LogEntry → Prop} {method : Http.Method} {address : String}
    {bearer : Option String} {body : Option Json.Value} :
    (Procedure.exchange method address bearer body).Writes P := by
  rw [Procedure.exchange]
  split
  · trivial
  · exact writes_call _

end Procedure

namespace TokenSource

variable (source : TokenSource)

theorem fetch_writes : WritesT IsPlain source.fetch := by
  refine Procedure.exchange_writes.lift.bind fun answer ↦ ?_
  cases answer with
  | error failure => exact writesT_throw
  | ok response =>
    dsimp only
    split
    · split
      · exact writesT_pure
      · exact writesT_throw
    · exact writesT_throw

theorem isPlain_kindEntries (granted : GrantedToken) :
    ∀ entry ∈ kindEntries granted, entry.IsPlain := by
  intro entry hentry
  rw [kindEntries] at hentry
  split at hentry
  · split at hentry
    · cases hentry
    · rw [List.mem_singleton.1 hentry]
      exact isPlain_event (by decide)
  · cases hentry

theorem refresh_writes : WritesT IsPlain source.refresh := by
  refine source.fetch_writes.bind fun granted ↦ ?_
  refine WritesT.bind (writesT_forM fun entry hentry ↦ ?_) fun _ ↦ ?_
  · exact (writes_log (isPlain_kindEntries granted entry hentry)).lift
  refine (writes_call _).lift.bind fun now ↦ ?_
  refine (writes_log (isPlain_event (by decide))).lift.bind fun _ ↦ ?_
  exact (writes_call _).lift.bind fun _ ↦ writesT_pure

theorem kept_writes {P : LogEntry → Prop} : kept.Writes P := by
  refine (writes_call _).bind fun entry ↦ ?_
  cases entry with
  | none => trivial
  | some entry => exact (writes_call _).bind fun _ ↦ trivial

theorem getToken_writes : source.getToken.Writes IsPlain := by
  have hnew : WritesT IsPlain source.keptOrNew := by
    refine kept_writes.lift.bind fun token ↦ ?_
    cases token with
    | none => exact source.refresh_writes
    | some token => exact writesT_pure
  refine (writes_call _).bind fun _ ↦ Writes.bind hnew fun outcome ↦ ?_
  exact (writes_call _).bind fun _ ↦ trivial

end TokenSource

namespace Verifier

variable (v : Verifier)

theorem keptKey_writes {P : LogEntry → Prop} (keyId : Option String) :
    (v.keptKey keyId).Writes P := by
  refine (writes_call _).bind fun entry ↦ ?_
  cases entry with
  | none => trivial
  | some entry => exact (writes_call _).bind fun _ ↦ trivial

theorem recentlyFetched_writes {P : LogEntry → Prop} : v.recentlyFetched.Writes P := by
  refine (writes_call _).bind fun entry ↦ ?_
  cases entry with
  | none => trivial
  | some entry => exact (writes_call _).bind fun _ ↦ trivial

theorem fetchKeys_writes : WritesT IsPlain v.fetchKeys := by
  refine (writes_log (isPlain_event (by decide))).lift.bind fun _ ↦ ?_
  refine Procedure.exchange_writes.lift.bind fun answer ↦ ?_
  cases answer with
  | error failure => exact writesT_throw
  | ok response =>
    dsimp only
    split
    · split
      · exact (writes_call _).lift.bind fun now ↦ (writes_call _).lift
      · exact writesT_throw
    · exact writesT_throw

theorem lastLook_writes {P : LogEntry → Prop} (keyId : Option String) :
    WritesT P (v.lastLook keyId) := by
  refine (v.keptKey_writes keyId).lift.bind fun key ↦ ?_
  cases key with
  | none => exact writesT_throw
  | some key => exact writesT_pure

theorem signingKey_writes (keyId : Option String) : WritesT IsPlain (v.signingKey keyId) := by
  rw [signingKey_eq]
  refine (v.keptKey_writes keyId).lift.bind fun key ↦ ?_
  cases key with
  | some key => exact writesT_pure
  | none =>
    refine v.recentlyFetched_writes.lift.bind fun recently ↦ ?_
    cases recently with
    | true => exact v.lastLook_writes keyId
    | false => exact v.fetchKeys_writes.bind fun _ ↦ v.lastLook_writes keyId

theorem verify_writes (token scope : String) : WritesT IsPlain (v.verify token scope) := by
  rw [verify]
  refine writesT_done.bind fun read ↦ ?_
  obtain ⟨segments, header⟩ := read
  dsimp only
  split
  · exact writesT_throw
  refine (v.signingKey_writes header.keyId).bind fun key ↦ ?_
  refine writesT_done.bind fun _ ↦ writesT_done.bind fun claims ↦ ?_
  obtain ⟨owner, validity⟩ := claims
  refine (writes_call _).lift.bind fun now ↦ writesT_done.bind fun _ ↦ ?_
  dsimp only
  split
  · exact writesT_throw
  split
  · exact writesT_pure
  · exact (writes_log (isPlain_event (by decide))).lift.bind fun _ ↦ writesT_throw

end Verifier

namespace Gateway

theorem send_writes {method : Http.Method} {address token : String} {body : Option Json.Value} :
    WritesT IsPlain (send method address token body) := by
  refine Procedure.exchange_writes.lift.bind fun answer ↦ ?_
  cases answer with
  | error failure => exact writesT_throw
  | ok response =>
    dsimp only
    split
    · exact writesT_pure
    · exact (writes_log (isPlain_event (by decide))).lift.bind fun _ ↦ writesT_throw

end Gateway

/-- **No adapter writes the entry of a failure.** -/
theorem Instance.adapter_writes (i : Instance) (op : Collaborator) :
    (i.adapter op).Writes IsPlain := by
  cases op with
  | credential => exact i.tokens.getToken_writes
  | verify token scope => exact i.verifier.verify_writes token scope
  | get => exact Gateway.send_writes.bind fun _ ↦ writesT_done
  | search | patch =>
    exact Gateway.send_writes.bind fun _ ↦ writesT_done.bind fun _ ↦ writesT_pure

/-! ### What the service writes -/

namespace Selection

/-- What is noted of the accounts of a search is not the entry of a failure. -/
theorem isPlain_of_mem_confirm {account : Account} {identities : List Identity} {entry : LogEntry}
    (h : entry ∈ (confirm account identities).1) : entry.IsPlain := by
  induction identities with
  | nil => cases h
  | cons identity rest ih =>
    rw [confirm] at h
    split at h
    · split at h
      · cases h
      · obtain rfl | hrest := List.mem_cons.1 h
        · exact isPlain_event (by decide)
        · exact ih hrest
    · exact ih h

theorem isPlain_of_mem_scan {criteria : Criteria} {requested : String} {accounts : List Account}
    {entry : LogEntry} (h : entry ∈ (scan criteria requested accounts).1) : entry.IsPlain := by
  induction accounts with
  | nil => cases h
  | cons account rest ih =>
    have hconfirm : ∀ noted ∈ (confirm account account.identities).1, noted.IsPlain :=
      fun _ ↦ isPlain_of_mem_confirm
    rw [scan] at h
    split at h
    · next notes hnotes =>
      rw [hnotes] at hconfirm
      obtain hfirst | hlater := List.mem_append.1 h
      · exact hconfirm entry hfirst
      · exact ih hlater
    · next notes id hnotes =>
      rw [hnotes] at hconfirm
      split_ifs at h
      · obtain hfirst | hlast := List.mem_append.1 h
        · exact hconfirm entry hfirst
        · rw [List.mem_singleton.1 hlast]
          exact isPlain_event (by decide)
      · exact hconfirm entry h

end Selection

namespace Action

variable {ε α : Type} {P : LogEntry → Prop}

theorem log_writes {entry : LogEntry} (h : P entry) : WritesT P (log entry) :=
  (writes_log h).lift

theorem debug_writes {message : String} {fields : Fields}
    (h : message ∉ Client.failureMessages) : WritesT IsPlain (debug message fields) :=
  log_writes (isPlain_event h)

/-- A refusal writes nothing, whether it is made or not. -/
theorem refuse_writes {c : Prop} [Decidable c] {e : DirectoryError} {f : Unit → Action α}
    (h : WritesT P (f ())) : WritesT P (if c then Action.fail e >>= f else f ()) := by
  split
  · exact writesT_throw.bind fun _ ↦ h
  · exact h

theorem ask_writes {op : Collaborator} {answer : op.Answer → Except ε α}
    {failure : ε → DirectoryError} : WritesT P (ask op answer failure) :=
  Writes.bind (writes_call op) fun _ ↦ trivial

end Action

namespace Service

variable (service : Service)

theorem requireDomain_writes {P : LogEntry → Prop} : WritesT P service.requireDomain := by
  rw [requireDomain]
  split
  · exact writesT_throw
  · exact writesT_pure

theorem readToken_writes (user : User) : WritesT IsPlain (readToken user) := by
  rw [readToken]
  split
  · exact writesT_pure
  · exact (Action.debug_writes (by decide)).bind fun _ ↦ Action.ask_writes

theorem getUser_writes (user : User) : WritesT IsPlain (service.getUser user) := by
  refine (Action.log_writes isPlain_span).bind fun _ ↦ Action.refuse_writes ?_
  refine service.requireDomain_writes.bind fun _ ↦ (readToken_writes user).bind fun token ↦ ?_
  refine Action.ask_writes.bind fun found ↦ ?_
  cases found with
  | none => exact (Action.debug_writes (by decide)).bind fun _ ↦ writesT_throw
  | some account => exact (Action.debug_writes (by decide)).bind fun _ ↦ writesT_pure

theorem searchUser_writes (user : User) (criteriaName : String) :
    WritesT IsPlain (service.searchUser user criteriaName) := by
  refine (Action.log_writes isPlain_span).bind fun _ ↦ ?_
  split
  · exact writesT_throw
  refine service.requireDomain_writes.bind fun _ ↦ Action.refuse_writes ?_
  refine (readToken_writes user).bind fun token ↦ ?_
  refine (Action.debug_writes (by decide)).bind fun _ ↦ Action.ask_writes.bind fun accounts ↦ ?_
  refine (Action.debug_writes (by decide)).bind fun _ ↦ ?_
  refine WritesT.bind (writesT_forM fun entry hentry ↦ ?_) fun _ ↦ writesT_done
  exact Action.log_writes (Selection.isPlain_of_mem_scan hentry)

theorem lookup_writes (input : String) : WritesT IsPlain (lookup input) := by
  refine (Action.log_writes isPlain_span).bind fun _ ↦ ?_
  split
  · exact writesT_throw
  · refine (Action.debug_writes (by decide)).bind fun _ ↦ Action.ask_writes.bind fun claims ↦ ?_
    exact (Action.debug_writes (by decide)).bind fun _ ↦ writesT_pure
  · exact (Action.debug_writes (by decide)).bind fun _ ↦ writesT_pure
  · exact (Action.debug_writes (by decide)).bind fun _ ↦ writesT_pure

theorem updateUser_writes (user : User) : WritesT IsPlain (service.updateUser user) := by
  refine (Action.log_writes isPlain_span).bind fun _ ↦ ?_
  split
  · exact writesT_throw
  refine Action.ask_writes.bind fun claims ↦ service.requireDomain_writes.bind fun _ ↦ ?_
  split
  · exact writesT_throw
  · refine Action.ask_writes.bind fun stored ↦ ?_
    exact (Action.log_writes (isPlain_event (by decide))).bind fun _ ↦ writesT_pure

/-- **The service does not write the entry of a failure.** -/
theorem program_writes (c : Call) : (service.program c).Writes IsPlain := by
  cases c with
  | getUser user => exact service.getUser_writes user
  | searchUser user criteria => exact service.searchUser_writes user criteria
  | lookup input => exact lookup_writes input
  | updateUser user => exact service.updateUser_writes user

end Service

theorem Instance.program_writes (i : Instance) (c : Service.Call) :
    (i.program c).Writes IsPlain :=
  (i.service.program_writes c).expand i.adapter_writes

/-! ### The level of a failure -/

/-- **The level of a failure**: a normal answer is logged for debugging, and a fault as an error.
Signing keys that cannot be had are left out. -/
def DirectoryError.level? : DirectoryError → Option Level
  | .notFound _ | .validation .. | .cancelled => some .debug
  | .token (.keysUnavailable _) => none
  | .token _ => some .debug
  | .unauthorized _ | .forbidden _ | .conflict _ | .unavailable _ | .unexpected .. => some .error

/-- The level is told by the test for normal answers. -/
theorem DirectoryError.eq_of_mem_level? (e : DirectoryError) {l : Level} (h : l ∈ e.level?) :
    l = if e.isExpected then .debug else .error := by
  cases e with
  | token refusal =>
    cases refusal with
    | keysUnavailable => cases h
    | _ => exact (Option.some.inj h).symm
  | _ => exact (Option.some.inj h).symm

/-- The level of a failure if only a missing user and invalid input were normal answers. -/
def DirectoryError.narrowLevel : DirectoryError → Level
  | .notFound _ | .validation .. => .debug
  | _ => .error

namespace Client

/-- What a client writes of a failure, at the level of the failure. -/
theorem failureEntry_eq (operation : String) (e : DirectoryError) :
    ∃ level message, failureEntry operation e =
        .event level message [("operation", operation), ("error", e.message)] ∧
      message ∈ failureMessages ∧ ∀ l ∈ e.level?, level = l := by
  rw [failureEntry]
  by_cases he : e.isExpected
  · refine ⟨.debug, "user_directory call returned", if_pos he, by decide, fun l hl ↦ ?_⟩
    rw [e.eq_of_mem_level? hl, if_pos he]
  · refine ⟨.error, "user_directory call failed", if_neg he, by decide, fun l hl ↦ ?_⟩
    rw [e.eq_of_mem_level? hl, if_neg he]

/-- **A failure is logged once**, at the end of the call and at its level (where it has one), with
the name of the operation and the wording of the failure. A call that does not fail logs nothing of
the kind. -/
structure LogsFailureOnce {Op σ : Type} (level? : DirectoryError → Option Level)
    (operation : String) (outcome : Option (Except DirectoryError User)) (r : Result Op σ) :
    Prop where
  /-- The call ends as the service did, and the client sees the failure as its own. -/
  seen : r.outcome = outcome.map (Except.mapError .ofDirectory)
  /-- A failure is the last thing that is logged, and nothing before it is logged as one. -/
  failed : ∀ e, outcome = some (.error e) → ∃ before level message,
    r.happenings =
      before ++ [.logged (.event level message [("operation", operation), ("error", e.message)])] ∧
    message ∈ failureMessages ∧ (∀ l ∈ level? e, level = l) ∧
    ∀ entry, .logged entry ∈ before → entry.IsPlain
  /-- Without a failure, nothing is logged as one. -/
  unfailed : (∀ e, outcome ≠ some (.error e)) → ∀ entry, .logged entry ∈ r.happenings →
    entry.IsPlain

/-- A run that writes nothing of the kind itself becomes a call that logs its failure once. -/
theorem logsFailureOnce_ofRun {Op σ : Type} {operation : String}
    {run : Run Op σ (Except DirectoryError User)}
    (h : ∀ entry, .logged entry ∈ run.happenings → entry.IsPlain) :
    LogsFailureOnce DirectoryError.level? operation (outcome? run.ending)
      (.ofRun operation run) := by
  refine ⟨Result.outcome_ofRun, fun e he ↦ ?_, fun hne ↦ ?_⟩
  · obtain ⟨level, message, hentry, hmessage, hlevel⟩ := failureEntry_eq operation e
    refine ⟨run.happenings, level, message, ?_, hmessage, hlevel, h⟩
    rw [← hentry, Result.ofRun, he]
  · rw [Result.ofRun]
    split
    · exact h
    · exact h
    · next e he => exact absurd he (hne e)

/-- A client call of a program that writes nothing of the kind itself. -/
theorem logsFailureOnce_callProgram {Op σ : Type} {Answer : Op → Type} {cancelled : Bool}
    {operation : String} {program : Program Op Answer (Except DirectoryError User)}
    (hprogram : program.Writes IsPlain) (respond : σ → (op : Op) → Reply (Answer op) × σ) (s : σ) :
    LogsFailureOnce DirectoryError.level? operation
      (outcome? (if cancelled then .interrupted else (program.run respond s).ending))
      (callProgram cancelled operation program respond s) := by
  rw [callProgram]
  cases cancelled with
  | true =>
    -- nothing has happened in a call that was cancelled beforehand
    let nothing : Run Op σ (Except DirectoryError User) := ⟨[], .interrupted, s⟩
    have hnothing : ∀ entry, .logged entry ∈ nothing.happenings → entry.IsPlain :=
      fun _ h ↦ absurd h List.not_mem_nil
    exact logsFailureOnce_ofRun hnothing
  | false => exact logsFailureOnce_ofRun fun entry hentry ↦ hprogram.of_logged hentry

end Client

/-! ### Outages -/

namespace Service

/-- **A collaborator is out of service**: no service token can be had, or the directory is not
reached, answers something unreadable, or refuses a search or an update. -/
inductive IsOutage : Exchange → Prop
  | credential {e} : IsOutage ⟨.credential, .answer (.error e)⟩
  | get {token userId e} (h : ∀ code reason, e ≠ .status code reason) :
    IsOutage ⟨.get token userId, .answer (.error e)⟩
  | search {token criteria term e} : IsOutage ⟨.search token criteria term, .answer (.error e)⟩
  | patch {token userId metadata e} :
    IsOutage ⟨.patch token userId metadata, .answer (.error e)⟩

theorem IsOutage.not_breaks {op : Collaborator} {r : Reply op.Answer} {e : Ending}
    (h : IsOutage ⟨op, r⟩) : ¬Program.Breaks r e := by
  intro hr
  cases hr with
  | interrupted | never => cases h

theorem Bears.not_isOutage {user : User} {token : String} {asked : List Exchange}
    (h : Bears user token asked) {x : Exchange} (hx : x ∈ asked) : ¬IsOutage x := by
  cases h with
  | own => cases hx
  | service =>
    rw [List.mem_singleton.1 hx]
    nofun

/-- An outage after the bearer token of a read was found is that of the last exchange. -/
theorem Bears.eq_of_isOutage {user : User} {token : String} {asked : List Exchange} {x y : Exchange}
    (h : Bears user token asked) (hx : x ∈ asked ++ [y]) (ho : IsOutage x) : IsOutage y := by
  obtain hbefore | hlast := List.mem_append.1 hx
  · exact absurd ho (h.not_isOutage hbefore)
  · exact List.mem_singleton.1 hlast ▸ ho

/-- The ending is an unexpected failure. -/
def IsUnexpected (e : Ending) : Prop :=
  ∃ reason cause, e = .finished (.error (.unexpected reason cause))

section Runs

variable {service : Service} {user : User} {d : List Exchange} {e : Ending} {x : Exchange}

theorem GetRun.isUnexpected (h : GetRun service user d e) (hx : x ∈ d) (ho : IsOutage x) :
    IsUnexpected e := by
  cases h with
  | noId | noDomain => cases hx
  | noBearer _ hr => exact absurd hr (List.mem_singleton.1 hx ▸ ho).not_breaks
  | noCredential => exact ⟨_, _, rfl⟩
  | unanswered hb hr => exact absurd hr (hb.eq_of_isOutage hx ho).not_breaks
  | @failed token asked b hb =>
    have hstatus : ∀ code reason, b ≠ .status code reason := by
      cases hb.eq_of_isOutage hx ho with
      | get hstatus => exact hstatus
    cases b with
    | status code reason => exact absurd rfl (hstatus code reason)
    | transport | decode => exact ⟨_, _, rfl⟩
  | absent hb | found hb => cases hb.eq_of_isOutage hx ho

theorem SearchRun.isUnexpected {criteriaName : String}
    (h : SearchRun service user criteriaName d e) (hx : x ∈ d) (ho : IsOutage x) :
    IsUnexpected e := by
  cases h with
  | unknown | noDomain | noTerm => cases hx
  | noBearer hr => exact absurd hr (List.mem_singleton.1 hx ▸ ho).not_breaks
  | noCredential | failed => exact ⟨_, _, rfl⟩
  | unanswered _ hb hr => exact absurd hr (hb.eq_of_isOutage hx ho).not_breaks
  | answered _ hb => cases hb.eq_of_isOutage hx ho

/-- A verification is no outage. -/
theorem not_isOutage_verify {token scope : String} {r : Reply (Except TokenError Claims)} :
    ¬IsOutage ⟨.verify token scope, r⟩ :=
  nofun

theorem UpdateRun.isUnexpected (h : UpdateRun service user d e) (hx : x ∈ d) (ho : IsOutage x) :
    IsUnexpected e := by
  cases h with
  | missing => cases hx
  | unverified | refused | noDomain | noMetadata =>
    exact absurd (List.mem_singleton.1 hx ▸ ho) not_isOutage_verify
  | unpatched _ _ _ hr =>
    obtain rfl | hx := List.mem_cons.1 hx
    · exact absurd ho not_isOutage_verify
    · exact absurd hr (List.mem_singleton.1 hx ▸ ho).not_breaks
  | failed => exact ⟨_, _, rfl⟩
  | updated =>
    obtain rfl | hx := List.mem_cons.1 hx
    · exact absurd ho not_isOutage_verify
    · cases List.mem_singleton.1 hx ▸ ho

theorem LookupRun.not_isOutage {input : String} (h : LookupRun input d e) (hx : x ∈ d) :
    ¬IsOutage x := by
  cases h with
  | blank | subject | username => cases hx
  | unverified | refused | verified => exact List.mem_singleton.1 hx ▸ not_isOutage_verify

/-- **An outage is an unexpected failure of the operation.** -/
theorem isUnexpected_of_conducts {c : Call} (h : Program.Conducts (service.program c) d e)
    (hx : x ∈ d) (ho : IsOutage x) : IsUnexpected e := by
  cases c with
  | getUser user => exact (getRun_of_conducts h).isUnexpected hx ho
  | searchUser user criteria => exact (searchRun_of_conducts h).isUnexpected hx ho
  | lookup input => exact absurd ho ((lookupRun_of_conducts h).not_isOutage hx)
  | updateUser user => exact (updateRun_of_conducts h).isUnexpected hx ho

end Runs

end Service

namespace Client

/-- The last thing that happens is that an error is logged. -/
def Result.EndsWithError {Op σ : Type} (r : Result Op σ) : Prop :=
  ∃ before message fields, r.happenings = before ++ [.logged (.event .error message fields)]

theorem LogsFailureOnce.endsWithError {Op σ : Type} {operation reason : String}
    {cause : Option Cause} {outcome : Option (Except DirectoryError User)} {r : Result Op σ}
    (h : LogsFailureOnce DirectoryError.level? operation outcome r)
    (he : outcome = some (.error (.unexpected reason cause))) : r.EndsWithError := by
  obtain ⟨before, level, message, hhappenings, -, hlevel, -⟩ := h.failed _ he
  obtain rfl := hlevel .error rfl
  exact ⟨before, message, _, hhappenings⟩

/-- **Every failure is logged once**, at its level and after everything else, whatever the call,
however the collaborators answer, and whenever it is cancelled: by a client of the service, and by
a client of an instance, whose adapters have entries of their own. An outage of a collaborator ends
the call with an error in the log. -/
theorem failures_loggedOnce (cancelled : Bool) (c : Service.Call) :
    (∀ (service : Service) {σ : Type}
      (respond : σ → (op : Collaborator) → Reply op.Answer × σ) (s : σ),
      LogsFailureOnce DirectoryError.level? c.name
        (outcome? (if cancelled then .interrupted else ((service.program c).run respond s).ending))
        (call service cancelled c respond s) ∧
      ∀ x ∈ (service.program c).dialogue respond s, Service.IsOutage x →
        (call service false c respond s).EndsWithError) ∧
    ∀ (i : Instance) {σ : Type} (respond : σ → (op : Effect) → Reply op.Answer × σ) (s : σ),
      LogsFailureOnce DirectoryError.level? c.name
        (outcome? (if cancelled then .interrupted else ((i.program c).run respond s).ending))
        (callProgram cancelled c.name (i.program c) respond s) := by
  refine ⟨fun service σ respond s ↦ ⟨?_, fun x hx ho ↦ ?_⟩, fun i σ respond s ↦ ?_⟩
  · exact logsFailureOnce_callProgram (service.program_writes c) respond s
  · have hconducts := Program.conducts_run respond (service.program c) s
    obtain ⟨reason, cause, hending⟩ := Service.isUnexpected_of_conducts hconducts hx ho
    have honce : LogsFailureOnce DirectoryError.level? c.name
        (outcome? ((service.program c).run respond s).ending) (call service false c respond s) :=
      logsFailureOnce_ofRun fun _ ↦ (service.program_writes c).of_logged
    exact honce.endsWithError (by rw [hending, outcome?])
  · exact logsFailureOnce_callProgram (i.program_writes c) respond s

/-- It is not so that only a missing user and invalid input are logged for debugging: neither a call
that was cancelled beforehand nor an update without a token is logged as an error. -/
theorem not_levels_narrow :
    ¬∀ (service : Service) (cancelled : Bool) (c : Service.Call)
      (respond : Unit → (op : Collaborator) → Reply op.Answer × Unit),
      LogsFailureOnce (fun e ↦ some e.narrowLevel) c.name
        (outcome? (if cancelled then .interrupted else ((service.program c).run respond ()).ending))
        (call service cancelled c respond ()) := by
  intro h
  have hcall := h ⟨"tenant.example.com"⟩ false (.updateUser {}) fun s _ ↦ (.never, s)
  obtain ⟨before, level, message, hhappenings, -, hlevel, -⟩ := hcall.failed (.token .missing) rfl
  obtain rfl := hlevel .error rfl
  have hlast := congrArg List.getLast? hhappenings
  rw [List.getLast?_concat] at hlast
  cases hlast

end Client

end AccountDirectory
