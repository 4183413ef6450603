import AccountDirectory.Proofs.TokenSource.Progress

/-!
# One refresh at a time

Any number of calls for a service token run at the same time, are answered in any way, and are
dropped at any point. `SingleFlight` says what follows for what they send and return:

* at most one request is under way;
* a token that was stored serves every call that takes the lock while it is good, and such a call
  sends nothing;
* after a refresh in vain the next call to take the lock sends a request of its own;
* the error that a call returns is its own.

A call that takes the lock reads the clock at once, and what it reads is what it knows of the time
at which it took the lock; so **taking the lock before a time** is to read an earlier time then.

With a fair lock no call that is not dropped waits forever (`IsFair.exists_over`).
-/

namespace AccountDirectory

open Interleaving (State Move Remembers SinceLock acts lastToken)

namespace TokenSource

variable {source : TokenSource} {s : State (Except CredentialError String)} {f : Nat → Stage}
  {i : Nat} {later earlier : List Interleaving.Event}

/-- **The error is the call's own**: the answer to its request says so, or it has no request to
send. -/
inductive FailsByItself (source : TokenSource) (history : List Interleaving.Event) (i : Nat) :
    CredentialError → Prop
  | answered {request answer failure} (hgot : .got request answer ∈ acts i history)
    (hanswer : GrantedToken.ofAnswer answer = .error failure) :
    FailsByItself source history i failure
  | unbuilt {failure} (hrequest : source.request = .error failure) :
    FailsByItself source history i (.request failure.message)

/-- **One refresh at a time.** -/
structure SingleFlight (source : TokenSource) (s : State (Except CredentialError String)) :
    Prop where
  /-- Only one call waits for an answer. -/
  one : ∀ i k request request' next next', s.calls i = .waiting request next →
    s.calls k = .waiting request' next' → i = k
  /-- Who takes the lock after a token was stored, and before its time is over, returns that token
  and sends nothing. -/
  shares : ∀ i later earlier granted stamp, SinceLock s.history i later earlier →
    (∃ e ∈ earlier, e.act = .did (.storeToken (source.entry granted stamp)) ()) →
      (∀ now, .did .steadyClock now ∈ acts i later →
        now < stamp + 1000 * min (granted.expiresIn - source.refreshMargin) (24 * 60 * 60)) →
        (∀ request, .sent request ∉ acts i later) ∧ s.calls i ≠ .dropped ∧
          ∀ outcome, s.calls i = .running (.done outcome) → outcome = .ok granted.token
  /-- Who takes the lock next after a refresh in vain has sent a request of its own when it is
  dropped or returns, and returns what the answer to that says. -/
  retries : ∀ i later earlier, SinceLock s.history i later earlier → Broken earlier →
    (s.calls i = .dropped → ∃ request, .sent request ∈ acts i later) ∧
      ∀ outcome, s.calls i = .running (.done outcome) →
        ∃ request answer, .sent request ∈ acts i later ∧ .got request answer ∈ acts i later ∧
          outcome = (GrantedToken.ofAnswer answer).map (·.token)
  own : ∀ i failure, s.calls i = .running (.done (.error failure)) →
    FailsByItself source s.history i failure

/-! ### What was stored before the lock was taken -/

/-- A time that was read since the lock was taken is not before what had happened then. -/
theorem time_le_of_read (hr : Remembers s) (hs : SinceLock s.history i later earlier) {now : Nat}
    (hread : .did .steadyClock now ∈ acts i later) {e : Interleaving.Event} (he : e ∈ earlier) :
    e.time ≤ now := by
  obtain ⟨time, hmem⟩ := Interleaving.mem_acts_iff.1 hread
  rw [hr.eq_time_of_read (hs.later_prefix.subset hmem) rfl]
  obtain ⟨lockTime, hsplit⟩ := hs
  exact hr.time_le_of_mem hsplit hmem (List.mem_cons_of_mem _ he)

/-- **A token that is good whenever the call reads the clock** is the one that was kept when the
call took the lock, if the call has read the clock at all. -/
theorem InOrder.kept_of_good (h : InOrder source s f) {entry : CachedToken}
    (hs : SinceLock s.history i later earlier)
    (hstored : ∃ e ∈ earlier, e.act = .did (.storeToken entry) ())
    (hgood : ∀ now, .did .steadyClock now ∈ acts i later → now < entry.refreshAt) {now : Nat}
    (hread : .did .steadyClock now ∈ acts i later) : lastToken earlier = some entry := by
  obtain ⟨e, he, hact⟩ := hstored
  have hkept := h.refreshes.kept _ hs.earlier_suffix e he entry (by rw [hact]; rfl)
  -- a token that was replaced before the call took the lock was not good at that time
  refine hkept.resolve_right ?_
  rintro ⟨x, hx, hle⟩
  exact absurd (hgood now hread) (not_lt.2 (hle.trans (time_le_of_read h.remembers hs hread hx)))

/-- Such a call does not find that it needs a new token. -/
theorem InOrder.not_refused_of_good (h : InOrder source s f) {entry : CachedToken}
    (hs : SinceLock s.history i later earlier)
    (hstored : ∃ e ∈ earlier, e.act = .did (.storeToken entry) ())
    (hgood : ∀ now, .did .steadyClock now ∈ acts i later → now < entry.refreshAt) :
    ¬Refused (lastToken earlier) (acts i later) := by
  intro hrefused
  obtain ⟨e, he, hact⟩ := hstored
  have hsome : (lastToken earlier).isSome :=
    List.findSome?_isSome_iff.2 ⟨e, he, by rw [hact]; rfl⟩
  obtain ⟨kept, hkept⟩ := Option.isSome_iff_exists.1 hsome
  obtain ⟨now, hread, hle⟩ := hrefused kept hkept
  obtain rfl : kept = entry :=
    Option.some.inj (hkept.symm.trans (h.kept_of_good hs ⟨e, he, hact⟩ hgood hread))
  exact absurd (hgood now hread) (not_lt.2 hle)

/-! ### What each clause rests on -/

/-- A call that waits for an answer is inside. -/
theorem isInside_of_waiting {stage : Stage} {request : Http.Request}
    {next : Except Http.TransportFailure Http.Response → Procedure _}
    (h : source.standing stage = .waiting request next) : stage.IsInside := by
  cases stage with
  | awaiting => trivial
  | _ => cases h

theorem eq_dropped_of_standing {stage : Stage} (h : source.standing stage = .dropped) :
    stage = .dropped := by
  cases stage with
  | dropped => rfl
  | _ => cases h

theorem InOrder.one (h : InOrder source s f) {i k : Nat} {request request' : Http.Request}
    {next next' : Except Http.TransportFailure Http.Response → Procedure _}
    (hi : s.calls i = .waiting request next) (hk : s.calls k = .waiting request' next') :
    i = k := by
  rw [h.stands] at hi hk
  by_contra hne
  exact h.orderly.not_isInside (isInside_of_waiting hk) hne (isInside_of_waiting hi)

/-- Who takes the lock while the time of what is kept is over has to ask anew. -/
theorem InOrder.own_of_broken (h : InOrder source s f) (hs : SinceLock s.history i later earlier)
    (hbroken : Broken earlier) {outcome : Except CredentialError String}
    (hsettles : Settles source (lastToken earlier) (acts i later) outcome) :
    ∃ request answer, .sent request ∈ acts i later ∧ .got request answer ∈ acts i later ∧
      outcome = (GrantedToken.ofAnswer answer).map (·.token) := by
  obtain ⟨hpassed, request, hrequest⟩ := h.refreshes.passed _ hs.earlier_suffix hbroken
  cases hsettles with
  | @shared entry now hkept hread hgood =>
    -- the time of what is kept was over before the call took the lock
    obtain ⟨x, hx, hle⟩ := hpassed entry hkept
    exact absurd hgood (not_lt.2 (hle.trans (time_le_of_read h.remembers hs hread hx)))
  | own _ _ hsent hgot => exact ⟨_, _, hsent, hgot, rfl⟩
  | unbuilt hnone =>
    rw [hrequest] at hnone
    cases hnone

/-- An outcome that is an error is the call's own. -/
theorem Settles.failsByItself {kept : Option CachedToken} {done : List Interleaving.Act}
    {history : List Interleaving.Event} {failure : CredentialError}
    (h : Settles source kept done (.error failure)) (hdone : ∀ act ∈ done, act ∈ acts i history) :
    FailsByItself source history i failure := by
  generalize houtcome : Except.error failure = outcome at h
  cases h with
  | shared => cases houtcome
  | @own request answer _ _ _ hgot =>
    rcases hanswer : GrantedToken.ofAnswer answer with failure' | granted
    · rw [hanswer] at houtcome
      obtain rfl := Except.error.inj houtcome
      exact .answered (hdone _ hgot) hanswer
    · rw [hanswer] at houtcome
      cases houtcome
  | unbuilt hrequest =>
    obtain rfl := Except.error.inj houtcome
    exact .unbuilt hrequest

/-- **One refresh at a time**, after every schedule. -/
theorem InOrder.singleFlight (h : InOrder source s f) : SingleFlight source s where
  one i k request request' next next' hi hk := h.one hi hk
  shares i later earlier granted stamp hs hstored hgood := by
    have hgood' : ∀ now, .did .steadyClock now ∈ acts i later →
        now < (source.entry granted stamp).refreshAt := hgood
    obtain ⟨hquiet, hkept, houtcome⟩ := (h.visiting.visit i later earlier hs).of_not_refused
      (h.not_refused_of_good hs hstored hgood')
    refine ⟨hquiet, fun hi ↦ ?_, fun outcome hi ↦ ?_⟩
    · exact hkept (eq_dropped_of_standing ((h.stands i).symm.trans hi))
    · obtain ⟨entry, now, hentry, hread, rfl⟩ :=
        houtcome outcome (eq_left_of_standing ((h.stands i).symm.trans hi))
      obtain rfl : entry = source.entry granted stamp :=
        Option.some.inj (hentry.symm.trans (h.kept_of_good hs hstored hgood' hread))
      rfl
  retries i later earlier hs hbroken := by
    have hv := h.visiting.visit i later earlier hs
    refine ⟨fun hi ↦ ?_, fun outcome hi ↦ ?_⟩
    · rw [eq_dropped_of_standing ((h.stands i).symm.trans hi)] at hv
      exact hv.2
    · rw [eq_left_of_standing ((h.stands i).symm.trans hi)] at hv
      exact h.own_of_broken hs hbroken hv
  own i failure hi := by
    have hleft : f i = .left (.error failure) := eq_left_of_standing ((h.stands i).symm.trans hi)
    obtain ⟨later, earlier, hs⟩ := h.visiting.came i (by rw [hleft]; trivial)
    have hv := h.visiting.visit i later earlier hs
    rw [hleft] at hv
    exact Settles.failsByItself hv fun act hact ↦ hs.mem_acts hact

/-- **Single-flight refresh.** After every schedule of calls for a service token, whatever is
answered and whoever is dropped, there is one refresh at a time; and a call to which the schedule is
fair is dropped, or returns a token, or returns an error of its own. -/
theorem getToken_isSingleFlight (source : TokenSource) :
    (∀ moves, SingleFlight source (State.run (fun _ ↦ source.getToken) moves)) ∧
      ∀ moves i, IsFair source moves i → ∃ n,
        (stateAt source moves n).calls i = .dropped ∨
          (∃ token, (stateAt source moves n).calls i = .running (.done (.ok token))) ∨
            ∃ failure, (stateAt source moves n).calls i = .running (.done (.error failure)) ∧
              FailsByItself source (stateAt source moves n).history i failure := by
  have hsafe : ∀ moves, SingleFlight source (State.run (fun _ ↦ source.getToken) moves) := by
    intro moves
    obtain ⟨f, h⟩ := inOrder_run source moves
    exact h.singleFlight
  refine ⟨hsafe, fun moves i hfair ↦ ?_⟩
  obtain ⟨n, hdropped | ⟨failure | token, hdone⟩⟩ := hfair.exists_over
  · exact ⟨n, .inl hdropped⟩
  · exact ⟨n, .inr (.inr ⟨failure, hdone, (hsafe _).own i failure hdone⟩)⟩
  · exact ⟨n, .inr (.inl ⟨token, hdone⟩)⟩

namespace Sample

/-- Two calls by turns: both are polled, the first one first, and then both are answered. -/
def alternating (n : ℕ) : Move :=
  if n % 4 < 2 then .act (n % 4) 0 else .receive (n % 4 - 2) (.ok granted)

/-- Which of the two calls is polled. -/
theorem alternating_eq_act_iff {n k calendar : Nat} :
    alternating n = .act k calendar ↔ n % 4 = k ∧ k < 2 ∧ calendar = 0 := by
  rw [alternating]
  split_ifs with hturn
  · rw [Move.act.injEq]
    omega
  · refine iff_of_false nofun ?_
    omega

/-- The second call waits for the lock, which the first one has. -/
theorem alternating_waits : (stateAt minuteMargin alternating 2).holder = some 0 ∧
    (stateAt minuteMargin alternating 2).calls 1 =
      .running (.ask .lockToken fun _ ↦ minuteMargin.look) :=
  ⟨rfl, stands_initial 1⟩

/-- The schedule is fair to the second call. -/
theorem isFair_alternating : IsFair minuteMargin alternating 1 where
  comes := ⟨1, 0, rfl⟩
  queue n h k hfree htaken hne hby next := by
    rw [stateAt_succ] at htaken
    obtain ⟨_, hn⟩ := State.eq_act_of_taken hfree htaken
    obtain ⟨hn, hh, -⟩ := alternating_eq_act_iff.1 hn
    obtain ⟨b, _, hb, hbefore⟩ := hby
    obtain ⟨hb, hk, -⟩ := alternating_eq_act_iff.1 hb
    -- the first call is polled before the second, so it is the second that takes the lock
    have hsecond : h = 1 := by
      by_contra hfirst
      obtain rfl : h = 0 := by omega
      exact hbefore 0 (by omega) 0 rfl
    obtain rfl : k = 0 := by omega
    obtain ⟨f, hf⟩ := exists_course minuteMargin alternating
    exact hf.calls_ne_of_held (show 1 ≤ n by omega) rfl next
  polled k hk n _ _ _ := by
    obtain ⟨_, _, hb, -⟩ := hk
    obtain ⟨-, hlt, -⟩ := alternating_eq_act_iff.1 hb
    exact ⟨4 * n + k, by omega, 0, alternating_eq_act_iff.2 ⟨by omega, hlt, rfl⟩⟩
  answered k hk n _ _ _ := by
    obtain ⟨_, _, hb, -⟩ := hk
    obtain ⟨-, hlt, -⟩ := alternating_eq_act_iff.1 hb
    refine ⟨4 * n + 2 + k, by omega, .inl ⟨.ok granted, ?_⟩⟩
    rw [alternating, if_neg (by omega)]
    congr 1
    omega

/-- The call that waits comes to its end. -/
theorem getToken_alternating_ends : IsFair minuteMargin alternating 1 ∧
    ((stateAt minuteMargin alternating 2).holder = some 0 ∧
      (stateAt minuteMargin alternating 2).calls 1 =
        .running (.ask .lockToken fun _ ↦ minuteMargin.look)) ∧
    ∃ n, (stateAt minuteMargin alternating n).calls 1 = .dropped ∨
      (∃ token, (stateAt minuteMargin alternating n).calls 1 = .running (.done (.ok token))) ∨
        ∃ failure,
          (stateAt minuteMargin alternating n).calls 1 = .running (.done (.error failure)) ∧
            FailsByItself minuteMargin (stateAt minuteMargin alternating n).history 1 failure :=
  ⟨isFair_alternating, alternating_waits,
    (getToken_isSingleFlight minuteMargin).2 alternating 1 isFair_alternating⟩

end Sample

end TokenSource

end AccountDirectory
