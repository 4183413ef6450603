import AccountDirectory.Proofs.Service.MutationGate
import AccountDirectory.Proofs.Service.Reads

/-!
# Sessions

A caller makes calls one after the other, and may hand in what earlier calls returned. The
collaborators may remember everything and change their minds. `session` is such a sequence of calls,
with what each of them asked and how it ended.

**The invariant.** A user that comes out of a session carries a subject or a token only if the
verifier accepted that token for reading in the very call that returned it. A record that a caller
makes up, or feeds back, cannot carry either one through: the other three operations build what they
return from the answer of the directory alone. `Vouches` is the invariant of one call, shown from
the ways in which the four operations can go, and it holds of each call of a session whatever was
returned before.
-/

namespace AccountDirectory.Service

open Program (Conducts Breaks)
open Lookup (Spells)

/-! ### One call -/

/-- The user carries a subject or a token. -/
def Carries (user : User) : Prop := user.sub ≠ "" ∨ user.token ≠ none

/-- What the directory says of an account carries neither. -/
theorem not_carries_toUser (account : Account) (username : String) :
    ¬Carries { account.toUser with username := username } := by
  rintro (h | h)
  · exact h rfl
  · exact h rfl

/-- **The user is vouched for** by one call: it is a lookup of a token, whose only question is to
the verifier, and the user is the subject that the verifier confirmed for that token. -/
def Vouches (call : Call) (d : List Exchange) (user : User) : Prop :=
  ∃ input token claims, call = .lookup input ∧ Spells input token ∧
    d = [⟨.verify token readScope, .answer (.ok claims)⟩] ∧
      user.token = some token ∧ user.sub = claims.subject ∧ user.userId = claims.subject

/-- A read by id returns nothing but what the directory says. -/
theorem GetRun.not_carries {service : Service} {user found : User} {d : List Exchange} {e : Ending}
    (h : GetRun service user d e) (he : e = .finished (.ok found)) : ¬Carries found := by
  cases h with
  | noBearer _ hr | unanswered _ hr =>
    subst he
    cases hr
  | found =>
    obtain rfl := Except.ok.inj (Program.Ending.finished.inj he)
    exact not_carries_toUser _ _
  | _ => cases he

/-- So does a search. -/
theorem SearchRun.not_carries {service : Service} {user found : User} {criteriaName : String}
    {d : List Exchange} {e : Ending} (h : SearchRun service user criteriaName d e)
    (he : e = .finished (.ok found)) : ¬Carries found := by
  obtain ⟨_, _, _, -, account, -, -, hfound⟩ := h.confirmed.owned found he
  rw [hfound]
  exact not_carries_toUser account _

/-- An update returns metadata only. -/
theorem UpdateRun.not_carries {service : Service} {user updated : User} {d : List Exchange}
    {e : Ending} (h : UpdateRun service user d e) (he : e = .finished (.ok updated)) :
    ¬Carries updated := by
  obtain ⟨_, _, _, stored, -, rfl⟩ := h.gated.success updated he
  rintro (h | h)
  · exact h rfl
  · exact h rfl

/-- A lookup vouches for the user that it returns, if that user carries anything. -/
theorem LookupRun.vouches {input : String} {user : User} {d : List Exchange} {e : Ending}
    (h : LookupRun input d e) (he : e = .finished (.ok user)) (hc : Carries user) :
    Vouches (.lookup input) d user := by
  cases h with
  | unverified _ hr =>
    subst he
    cases hr
  | @verified token claims hs =>
    obtain rfl := Except.ok.inj (Program.Ending.finished.inj he)
    exact ⟨input, token, claims, rfl, hs, rfl, rfl, rfl, rfl⟩
  | subject | username =>
    -- these two carry neither a subject nor a token
    obtain rfl := Except.ok.inj (Program.Ending.finished.inj he)
    rcases hc with hc | hc
    · exact absurd rfl hc
    · exact absurd rfl hc
  | _ => cases he

/-- **Each call vouches for the user that it returns**, if that user carries a subject or a
token. -/
theorem vouches_of_conducts {service : Service} {call : Call} {d : List Exchange} {user : User}
    (h : Conducts (service.program call) d (.finished (.ok user))) (hc : Carries user) :
    Vouches call d user := by
  cases call with
  | getUser record => exact absurd hc ((getRun_of_conducts h).not_carries rfl)
  | searchUser record criteria => exact absurd hc ((searchRun_of_conducts h).not_carries rfl)
  | lookup input => exact (lookupRun_of_conducts h).vouches rfl hc
  | updateUser record => exact absurd hc ((updateRun_of_conducts h).not_carries rfl)

/-- **What a lookup asks**, as a law about its dialogue `d` and its ending `e`. -/
structure AsksVerifierOnly (input : String) (d : List Exchange) (e : Ending) : Prop where
  /-- Neither the directory nor the source of service tokens is asked. -/
  only : ∀ x ∈ d, ∃ token, x.op = .verify token readScope
  /-- A token is verified, once, and nothing else is asked. -/
  once : ∀ token, Spells input token → ∃ r, d = [⟨.verify token readScope, r⟩]
  /-- A refusal is returned as it is; the identifier is then not taken for anything else. -/
  refused : ∀ token b, ⟨.verify token readScope, .answer (.error b)⟩ ∈ d →
    e = .finished (.error (.token b))
  /-- What the verifier accepts is the user that is returned. -/
  accepted : ∀ token claims, ⟨.verify token readScope, .answer (.ok claims)⟩ ∈ d →
    e = .finished
      (.ok { userId := claims.subject, sub := claims.subject, token := some token })
  /-- An identifier that spells no token is not verified, and nobody is asked about it. -/
  unasked : (∀ token, ¬Spells input token) → d = []

/-- An identifier that is taken for something else spells no token. -/
theorem not_spells_of_classify {input token : String} {strategy : Option Lookup.Strategy}
    (h : Lookup.classify input = strategy) (hne : strategy ≠ some (.token token)) :
    ¬Spells input token :=
  fun hs ↦ hne (h.symm.trans (Lookup.classify_eq_token_iff.2 hs))

theorem spells_unique {input token other : String} (h : Spells input token)
    (h' : Spells input other) : other = token := by
  have ht := (Lookup.classify_eq_token_iff.2 h).symm.trans (Lookup.classify_eq_token_iff.2 h')
  exact (Lookup.Strategy.token.inj (Option.some.inj ht)).symm

/-- Every way of a lookup respects that law. -/
theorem LookupRun.asksVerifierOnly {input : String} {d : List Exchange} {e : Ending}
    (h : LookupRun input d e) : AsksVerifierOnly input d e where
  only := by cases h <;> simp
  once := by
    intro token ht
    cases h with
    | blank hb =>
      exact absurd ht (not_spells_of_classify (Lookup.classify_eq_none_iff.2 hb) (by simp))
    | unverified hs | refused hs | verified hs =>
      obtain rfl := spells_unique hs ht
      exact ⟨_, rfl⟩
    | subject hc => exact absurd ht (not_spells_of_classify hc (by simp))
    | username hc => exact absurd ht (not_spells_of_classify hc (by simp))
  refused := by
    intro token b hb
    cases h with
    | unverified _ hr =>
      cases List.mem_singleton.1 hb
      cases hr
    | refused =>
      cases List.mem_singleton.1 hb
      rfl
    | verified => cases List.mem_singleton.1 hb
    | _ => cases hb
  accepted := by
    intro token claims hc
    cases h with
    | unverified _ hr =>
      cases List.mem_singleton.1 hc
      cases hr
    | refused => cases List.mem_singleton.1 hc
    | verified =>
      cases List.mem_singleton.1 hc
      rfl
    | _ => cases hc
  unasked := by
    intro hn
    cases h with
    | unverified hs | refused hs | verified hs => exact absurd hs (hn _)
    | _ => rfl

/-! ### Calls one after the other -/

/-- A call of a session, with what it asked and how it ended. -/
structure Turn where
  call : Call
  dialogue : List Exchange
  ending : Ending

/-- **A session.** Each call is chosen by the caller from how the calls before it ended, so a record
that is handed in may be any record and any earlier result. The collaborators answer from a state
that all calls share. -/
def session {σ : Type} (service : Service)
    (respond : σ → (op : Collaborator) → Program.Reply op.Answer × σ) :
    List (List Ending → Call) → List Ending → σ → List Turn
  | [], _, _ => []
  | choose :: plan, earlier, s =>
    let call := choose earlier
    let run := (service.program call).run respond s
    ⟨call, (service.program call).dialogue respond s, run.ending⟩ ::
      session service respond plan (earlier ++ [run.ending]) run.state

/-- **The invariant of a session.** -/
structure IsVouchedFor (turns : List Turn) : Prop where
  /-- Whoever is returned with a subject or a token is vouched for by the call that returns it. -/
  vouched : ∀ turn ∈ turns, ∀ user, turn.ending = .finished (.ok user) → Carries user →
    Vouches turn.call turn.dialogue user
  /-- A lookup asks the verifier about tokens, and asks nobody about anything else. -/
  lookups : ∀ turn ∈ turns, ∀ input, turn.call = .lookup input →
    AsksVerifierOnly input turn.dialogue turn.ending

/-- One more call keeps the invariant. -/
theorem IsVouchedFor.cons {service : Service} {turn : Turn} {turns : List Turn}
    (h : Conducts (service.program turn.call) turn.dialogue turn.ending)
    (ht : IsVouchedFor turns) : IsVouchedFor (turn :: turns) where
  vouched := by
    refine List.forall_mem_cons.2 ⟨fun user he hc ↦ ?_, ht.vouched⟩
    exact vouches_of_conducts (he ▸ h) hc
  lookups := by
    refine List.forall_mem_cons.2 ⟨fun input hcall ↦ ?_, ht.lookups⟩
    rw [hcall] at h
    exact (lookupRun_of_conducts h).asksVerifierOnly

/-- **In every session a subject or a token that is returned is a verified one**, whatever the
caller hands in and however the collaborators behave. -/
theorem session_isVouchedFor {σ : Type} (service : Service)
    (respond : σ → (op : Collaborator) → Program.Reply op.Answer × σ)
    (plan : List (List Ending → Call)) (earlier : List Ending) (s : σ) :
    IsVouchedFor (service.session respond plan earlier s) := by
  induction plan generalizing earlier s with
  | nil => exact ⟨fun _ h ↦ absurd h List.not_mem_nil, fun _ h ↦ absurd h List.not_mem_nil⟩
  | cons choose plan ih => exact (ih _ _).cons (Program.conducts_run respond _ s)

end AccountDirectory.Service
