import AccountDirectory.Proofs.TokenSource.Knowledge

/-!
# Fresh service tokens

Any number of calls for a service token run at the same time, are answered late, wrongly or never,
and are dropped. A call that returns a token without having been granted one itself returns the one
that was granted last, and does so before that token's time is over.

**The invariant.** The lock is held from the look at the cache until a new token is stored, so at
most one call is inside (`lock`). Between the answer and the store nothing waits, so a token that
was granted is stored before anybody else looks; as long as no call is between the two, the cache
holds what was granted last (`settled`). What a call has learned stays true while it is inside
(`knows`), because only a call that is inside is granted a token or changes the cache.

A call that finds a good token does not wait any more, so the moment of its check is the moment at
which the token is returned.
-/

namespace AccountDirectory

open Interleaving (State Move Act Event Remembers Grant lastToken lastGrant)

namespace TokenSource

/-- A request is only sent by a call that has found what is cached no longer good. -/
def AsksWhenStale (e : Event) (before : List Event) : Prop :=
  ∀ request, e.act = .sent request → FoundStale before e.caller

/-- **The invariant** of the stages `f` of all calls. -/
structure Orderly (source : TokenSource) (s : State (Except CredentialError String))
    (f : Nat → Stage) : Prop where
  /-- Who is inside has the lock. -/
  lock : ∀ i, (f i).IsInside ↔ s.holder = some i
  knows : ∀ i, Knows source s.history i (f i)
  settled : (∀ i, ¬(f i).IsPending) → Settled source s.history
  asks : ∀ later e earlier, s.history = later ++ e :: earlier → AsksWhenStale e earlier
  /-- Who has stored a token has it to return. -/
  stores : ∀ e ∈ s.history, e.act.storedToken?.isSome → (f e.caller).HasToken

variable {source : TokenSource} {s s' t : State (Except CredentialError String)} {f : Nat → Stage}
  {i : Nat} {old stage : Stage} {act : Act}

theorem Stage.IsPending.isInside (h : stage.IsPending) : stage.IsInside := by
  cases stage with
  | granted | stamped => trivial
  | _ => exact h.elim

/-- Only one call is inside. -/
theorem Orderly.not_isInside (h : Orderly source s f) (hi : (f i).IsInside) {k : Nat} (hk : k ≠ i) :
    ¬(f k).IsInside := by
  intro hin
  have hsame : some k = some i := ((h.lock k).1 hin).symm.trans ((h.lock i).1 hi)
  exact hk (Option.some.inj hsame)

/-- A call that is inside, and not between its answer and the store, finds the cache settled. -/
theorem Orderly.settled_of_isInside (h : Orderly source s f) (hi : f i = old) (hin : old.IsInside)
    (hp : ¬old.IsPending) : Settled source s.history := by
  subst hi
  refine h.settled fun k hk ↦ ?_
  by_cases hki : k = i
  · exact hp (hki ▸ hk)
  · exact h.not_isInside hin hki hk.isInside

theorem Orderly.knows_of_eq (h : Orderly source s f) (hi : f i = old) :
    Knows source s.history i old :=
  hi ▸ h.knows i

/-- **One turn keeps the invariant** if the call that turns keeps its own part of it, and the lock
is with none of the others that did not have it. -/
theorem Orderly.turn (h : Orderly source s f) (hi : f i = old) (hhistory : t.history = s.history)
    (hclock : t.clock = s.clock) (hlock : stage.IsInside ↔ t.holder = some i)
    (hothers : ∀ k, k ≠ i → (s.holder = some k ↔ t.holder = some k))
    (hquiet : Event.IsNeutral ⟨s.clock, i, act⟩ ∨ old.IsInside)
    (hknows : Knows source (⟨s.clock, i, act⟩ :: s.history) i stage)
    (hsettled : (∀ k, ¬(Function.update f i stage k).IsPending) →
      Settled source (⟨s.clock, i, act⟩ :: s.history))
    (hasks : AsksWhenStale ⟨s.clock, i, act⟩ s.history)
    (hstores : old.HasToken ∨ act.storedToken?.isSome → stage.HasToken) :
    Orderly source (source.turn t i stage act) (Function.update f i stage) := by
  subst hi
  have hput : (source.turn t i stage act).history = ⟨s.clock, i, act⟩ :: s.history := by
    rw [← hclock, ← hhistory]
    rfl
  refine ⟨fun k ↦ ?_, fun k ↦ ?_, fun hp ↦ ?_, ?_, ?_⟩
  · by_cases hk : k = i
    · rw [hk, Function.update_self]
      exact hlock
    · rw [Function.update_of_ne hk]
      exact (h.lock k).trans (hothers k hk)
  · rw [hput]
    by_cases hk : k = i
    · rw [hk, Function.update_self]
      exact hknows
    · rw [Function.update_of_ne hk]
      -- the event is neutral, or the others are outside and know of the past only
      obtain hneutral | hin := hquiet
      · exact (h.knows k).cons_of_isNeutral hneutral
      · exact (h.knows k).cons_of_not_isInside (h.not_isInside hin hk)
  · rw [hput]
    exact hsettled hp
  · rw [hput]
    exact Interleaving.forall_split_cons hasks h.asks
  · rw [hput]
    refine List.forall_mem_cons.2 ⟨fun hstore ↦ ?_, fun e he hstore ↦ ?_⟩
    · show (Function.update f i stage i).HasToken
      rw [Function.update_self]
      exact hstores (.inr hstore)
    · by_cases hk : e.caller = i
      · rw [hk, Function.update_self]
        exact hstores (.inl (hk ▸ h.stores e he hstore))
      · rw [Function.update_of_ne hk]
        exact h.stores e he hstore

/-- A turn that neither grants nor stores a token. -/
theorem Orderly.turn_of_isNeutral (h : Orderly source s f) (hi : f i = old)
    (hhistory : t.history = s.history) (hclock : t.clock = s.clock)
    (hlock : stage.IsInside ↔ t.holder = some i)
    (hothers : ∀ k, k ≠ i → (s.holder = some k ↔ t.holder = some k))
    (hneutral : Event.IsNeutral ⟨s.clock, i, act⟩) (hpending : old.IsPending → stage.IsPending)
    (hknows : Knows source (⟨s.clock, i, act⟩ :: s.history) i stage)
    (hasks : AsksWhenStale ⟨s.clock, i, act⟩ s.history)
    (hstores : old.HasToken → stage.HasToken) :
    Orderly source (source.turn t i stage act) (Function.update f i stage) := by
  refine h.turn hi hhistory hclock hlock hothers (.inl hneutral) hknows (fun hp ↦ ?_) hasks ?_
  · subst hi
    refine (h.settled fun k hk ↦ hp k ?_).cons hneutral
    by_cases hki : k = i
    · rw [hki, Function.update_self]
      exact hpending (hki ▸ hk)
    · rwa [Function.update_of_ne hki]
  · rintro (htoken | hstore)
    · exact hstores htoken
    · have hnone : act.storedToken? = none := hneutral.2
      rw [hnone] at hstore
      cases hstore

/-- Who was inside and still is has the lock. -/
theorem Orderly.isInside_iff (h : Orderly source s f) (hi : f i = old) (hin : old.IsInside)
    (hstage : stage.IsInside) : stage.IsInside ↔ s.holder = some i :=
  iff_of_true hstage ((h.lock i).1 (hi ▸ hin))

/-- A turn inside that neither grants nor stores a token. -/
theorem Orderly.turn_of_isInside (h : Orderly source s f) (hi : f i = old) (hin : old.IsInside)
    (hstage : stage.IsInside) (hneutral : Event.IsNeutral ⟨s.clock, i, act⟩)
    (hpending : old.IsPending → stage.IsPending)
    (hknows : Knows source (⟨s.clock, i, act⟩ :: s.history) i stage)
    (hasks : AsksWhenStale ⟨s.clock, i, act⟩ s.history)
    (hstores : old.HasToken → stage.HasToken) :
    Orderly source (source.turn s i stage act) (Function.update f i stage) :=
  h.turn_of_isNeutral hi rfl rfl (h.isInside_iff hi hin hstage) (fun _ _ ↦ Iff.rfl) hneutral
    hpending hknows hasks hstores

/-! ### What one move preserves -/

theorem isInside_demanding : source.demanding.IsInside := by
  rw [demanding]
  rcases source.request with failure | request <;> trivial

/-- What a call has found in the cache is what is cached. -/
theorem Orderly.looked (h : Orderly source s f) (hr : Remembers s) (hi : f i = .entered) :
    Orderly source (source.turn s i (source.afterLook s.token) (.did .cachedToken s.token))
      (Function.update f i (source.afterLook s.token)) := by
  have hlast : lastToken (⟨s.clock, i, .did .cachedToken s.token⟩ :: s.history) = s.token :=
    (Interleaving.lastToken_cons rfl).trans hr.token.symm
  refine h.turn_of_isInside hi trivial ?_ ⟨rfl, rfl⟩ False.elim ?_ (fun _ hsent ↦ by cases hsent)
    False.elim
  · rcases s.token with - | entry
    · exact isInside_demanding
    · trivial
  · rcases htoken : s.token with - | entry
    · -- nothing is cached, so nothing that is cached can be good
      rw [htoken] at hlast
      refine knows_demanding fun entry hentry ↦ ?_
      rw [hlast] at hentry
      cases hentry
    · rw [htoken] at hlast
      exact hlast

/-- A kept token is only returned while it is good, and otherwise known to be no longer good. -/
theorem Orderly.checked {entry : CachedToken} (h : Orderly source s f) (hi : f i = .looked entry) :
    Orderly source
      (source.turn s i (source.afterCheck entry s.clock) (.did .steadyClock s.clock))
      (Function.update f i (source.afterCheck entry s.clock)) := by
  have hlast : lastToken s.history = some entry := h.knows_of_eq hi
  refine h.turn_of_isInside hi trivial ?_ ⟨rfl, rfl⟩ False.elim ?_ (fun _ hsent ↦ by cases hsent)
    False.elim
  · rw [afterCheck]
    split_ifs
    · trivial
    · exact isInside_demanding
  · rw [afterCheck]
    split_ifs with hgood
    · obtain ⟨grant, stamp, hkept⟩ := h.settled_of_isInside hi trivial id entry hlast
      obtain rfl : entry = source.entry grant.granted stamp :=
        Option.some.inj (hlast.symm.trans hkept.cached)
      exact .inl ⟨[], s.clock, s.history, grant, stamp, rfl, hkept, rfl, hgood⟩
    · refine knows_demanding fun entry' hentry ↦ ?_
      rw [Interleaving.lastToken_cons rfl, hlast] at hentry
      obtain rfl := Option.some.inj hentry
      exact ⟨s.clock, List.mem_cons_self, Nat.le_of_not_lt hgood⟩

/-- A call that is granted a token has the latest grant. -/
theorem Orderly.answered {request : Http.Request} (h : Orderly source s f)
    (hi : f i = .awaiting request) (answer : Except Http.TransportFailure Http.Response) :
    Orderly source (source.turn s i (afterAnswer answer) (.got request answer))
      (Function.update f i (afterAnswer answer)) := by
  rw [afterAnswer]
  rcases hanswer : GrantedToken.ofAnswer answer with failure | granted
  · have hneutral : Event.IsNeutral ⟨s.clock, i, .got request answer⟩ :=
      ⟨by simp [Event.grant?, hanswer, Except.toOption], rfl⟩
    exact h.turn_of_isInside hi trivial trivial hneutral False.elim trivial
      (fun _ hsent ↦ by cases hsent) False.elim
  · have hgrant : Event.grant? ⟨s.clock, i, .got request answer⟩ = some ⟨s.clock, i, granted⟩ := by
      simp [Event.grant?, hanswer, Except.toOption]
    refine h.turn hi rfl rfl (h.isInside_iff hi trivial trivial) (fun _ _ ↦ Iff.rfl) (.inr trivial)
      ⟨s.clock, ?_⟩ (fun hp ↦ ?_) (fun _ hsent ↦ by cases hsent) ?_
    · rw [lastGrant, List.findSome?_cons, hgrant]
    · -- until the store nothing is said of the cache
      have hpi := hp i
      rw [Function.update_self] at hpi
      exact absurd trivial hpi
    · rintro (htoken | hstore)
      · exact htoken.elim
      · cases hstore

/-- The time of the store is not before the time of the grant. -/
theorem Orderly.stamped {granted : GrantedToken} (h : Orderly source s f) (hr : Remembers s)
    (hi : f i = .granted granted) :
    Orderly source (source.turn s i (.stamped granted s.clock) (.did .steadyClock s.clock))
      (Function.update f i (.stamped granted s.clock)) := by
  obtain ⟨time, hlast⟩ := h.knows_of_eq hi
  obtain ⟨e, he, -, htime, -⟩ := Interleaving.exists_of_lastGrant_eq_some hlast
  refine h.turn_of_isInside hi trivial trivial ⟨rfl, rfl⟩ (fun _ ↦ trivial)
    ⟨time, (Interleaving.lastGrant_cons rfl).trans hlast, ?_, List.mem_cons_self⟩
    (fun _ hsent ↦ by cases hsent) False.elim
  exact htime.symm.le.trans (hr.past e he)

/-- After a store the latest grant is kept. -/
theorem Orderly.stored {granted : GrantedToken} {now : Nat} (h : Orderly source s f)
    (hr : Remembers s) (hi : f i = .stamped granted now) :
    Orderly source
      (source.turn { s with token := some (source.entry granted now) } i
        (.leaving (.ok granted.token)) (.did (.storeToken (source.entry granted now)) ()))
      (Function.update f i (.leaving (.ok granted.token))) := by
  obtain ⟨time, hlast, hle, hread⟩ := h.knows_of_eq hi
  have hlatest : lastGrant (⟨s.clock, i, .did (.storeToken (source.entry granted now)) ()⟩ ::
      s.history) = some ⟨time, i, granted⟩ := (Interleaving.lastGrant_cons rfl).trans hlast
  refine h.turn hi rfl rfl (h.isInside_iff hi trivial trivial) (fun _ _ ↦ Iff.rfl) (.inr trivial)
    (.inr ?_) (fun _ entry hentry ↦ ?_) (fun _ hsent ↦ by cases hsent) (fun _ ↦ trivial)
  · obtain ⟨e, he, hgrant, -, hcaller⟩ := Interleaving.exists_of_lastGrant_eq_some hlast
    exact ⟨e, List.mem_cons_of_mem _ he, hcaller, Option.isSome_of_eq_some hgrant⟩
  · exact ⟨_, now, hlatest, rfl, s.clock, List.mem_cons_self, hle, hr.past _ hread⟩

/-- Who comes in is the only one inside. -/
theorem Orderly.locked (h : Orderly source s f) (hi : f i = .outside) (hfree : s.holder = none) :
    Orderly source (source.turn { s with holder := some i } i .entered (.did .lockToken ()))
      (Function.update f i .entered) := by
  have hothers : ∀ k, k ≠ i → (s.holder = some k ↔ some i = some k) := by
    intro k hk
    rw [hfree]
    exact iff_of_false nofun fun hsame ↦ hk (Option.some.inj hsame).symm
  exact h.turn_of_isNeutral hi rfl rfl (iff_of_true trivial rfl) hothers ⟨rfl, rfl⟩ False.elim
    trivial (fun _ hsent ↦ by cases hsent) False.elim

/-- Who leaves leaves nobody inside. -/
theorem Orderly.unlocked {outcome : Except CredentialError String} (h : Orderly source s f)
    (hi : f i = .leaving outcome) :
    Orderly source (source.turn { s with holder := none } i (.left outcome) (.did .unlockToken ()))
      (Function.update f i (.left outcome)) := by
  have hholder : s.holder = some i := (h.lock i).1 (by rw [hi]; trivial)
  have hothers : ∀ k, k ≠ i → (s.holder = some k ↔ none = some k) := by
    intro k hk
    rw [hholder]
    exact iff_of_false (fun hsame ↦ hk (Option.some.inj hsame).symm) nofun
  have hknows : Knows source s.history i (.left outcome) := by
    have hleaving := h.knows_of_eq hi
    rcases outcome <;> exact hleaving
  have hstores : (Stage.leaving outcome).HasToken → (Stage.left outcome).HasToken := by
    rcases outcome <;> exact id
  exact h.turn_of_isNeutral hi rfl rfl (iff_of_false id nofun) hothers ⟨rfl, rfl⟩ False.elim
    (hknows.cons_of_isNeutral ⟨rfl, rfl⟩) (fun _ hsent ↦ by cases hsent) hstores

/-- Who is dropped is not inside any more, and has stored nothing. -/
theorem Orderly.dropped (h : Orderly source s f)
    (hi : f i = .outside ∨ ∃ request, f i = .awaiting request) :
    Orderly source
      (source.turn { s with holder := s.holder.filter (· ≠ i) } i .dropped .dropped)
      (Function.update f i .dropped) := by
  have hlock : s.holder.filter (· ≠ i) ≠ some i := fun hsame ↦
    of_decide_eq_true (Option.filter_eq_some_iff.1 hsame).2 rfl
  have hothers : ∀ k, k ≠ i → (s.holder = some k ↔ s.holder.filter (· ≠ i) = some k) := by
    intro k hk
    rw [Option.filter_eq_some_iff]
    exact (and_iff_left (decide_eq_true hk)).symm
  -- a call that waits for the lock does not have it, one that waits for its answer loses it
  obtain hi | ⟨request, hi⟩ := hi
  · exact h.turn_of_isNeutral hi rfl rfl (iff_of_false id hlock) hothers ⟨rfl, rfl⟩ False.elim
      trivial (fun _ hsent ↦ by cases hsent) False.elim
  · exact h.turn_of_isNeutral hi rfl rfl (iff_of_false id hlock) hothers ⟨rfl, rfl⟩ False.elim
      trivial (fun _ hsent ↦ by cases hsent) False.elim

/-- **Each move preserves the invariant.** -/
theorem Orderly.moved {f' : Nat → Stage} (h : Orderly source s f) (hr : Remembers s)
    (hm : Moved source s f s' f') : Orderly source s' f' := by
  cases hm with
  | idle => exact h
  | passed duration => exact ⟨h.lock, h.knows, h.settled, h.asks, h.stores⟩
  | locked hi hfree => exact h.locked hi hfree
  | looked hi => exact h.looked hr hi
  | checked hi => exact h.checked hi
  | @sent i request hi =>
    have hstale : FoundStale s.history i := h.knows_of_eq hi
    exact h.turn_of_isInside hi trivial trivial ⟨rfl, rfl⟩ False.elim trivial (fun _ _ ↦ hstale)
      False.elim
  | answered hi answer => exact h.answered hi answer
  | stamped hi => exact h.stamped hr hi
  | stored hi => exact h.stored hr hi
  | unlocked hi => exact h.unlocked hi
  | dropped hi => exact h.dropped hi

/-- At the beginning all calls are outside, and nothing has happened. -/
theorem orderly_initial :
    Orderly source (State.initial fun _ ↦ source.getToken) fun _ ↦ .outside where
  lock _ := iff_of_false id nofun
  knows _ := trivial
  settled _ _ hentry := by cases hentry
  asks _ _ _ hsplit := absurd hsplit (by simp [State.initial])
  stores _ he := absurd he List.not_mem_nil

/-- **After every schedule** each call stands at a stage, and the stages are in order. -/
theorem orderly_run (source : TokenSource) (moves : List Move) :
    ∃ f, source.Stands (State.run (fun _ ↦ source.getToken) moves) f ∧
      Orderly source (State.run (fun _ ↦ source.getToken) moves) f := by
  have hboth := State.run_induction
    (p := fun s ↦ Remembers s ∧ ∃ f, source.Stands s f ∧ Orderly source s f)
    ⟨Interleaving.remembers_run _ [], _, stands_initial, orderly_initial⟩
    (fun s s' ⟨hr, f, hstands, h⟩ hc ↦ by
      obtain ⟨f', hm, hstands'⟩ := moved_of_change hstands hc
      exact ⟨hr.change hc, f', hstands', h.moved hr hm⟩) moves
  exact hboth.2

/-! ### What a call returns -/

/-- A call has failed: its fetch has, or its caller has dropped it. -/
inductive HasFailed : Interleaving.Standing (Except CredentialError String) → Prop
  | leaving (failure) : HasFailed (.running (leave (.error failure)))
  | left (failure) : HasFailed (.running (.done (.error failure)))
  | dropped : HasFailed .dropped

/-- **No stale token is served, and none is asked for in vain.** -/
structure ServesFresh (source : TokenSource) (s : State (Except CredentialError String)) :
    Prop where
  /-- A call that returns a token without having been granted one has checked the latest grant,
  which was kept at the time `stamp`. If it was kept at most the refresh margin after it was issued,
  then it had not expired. -/
  cached : ∀ i token, s.calls i = .running (.done (.ok token)) →
    (∀ e ∈ s.history, e.caller = i → e.grant? = none) →
    ∃ later now earlier grant stamp,
      s.history = later ++ ⟨now, i, .did .steadyClock now⟩ :: earlier ∧
        KeptAt source earlier grant stamp ∧ token = grant.granted.token ∧
        now < stamp + 1000 * min (grant.granted.expiresIn - source.refreshMargin) (24 * 60 * 60) ∧
        ∀ issued, stamp ≤ issued + 1000 * source.refreshMargin →
          now < issued + 1000 * grant.granted.expiresIn
  /-- While the latest grant is kept and good, nobody sends a request. -/
  unsent : ∀ later now i request earlier grant stamp,
    s.history = later ++ ⟨now, i, .sent request⟩ :: earlier → KeptAt source earlier grant stamp →
      stamp + 1000 * min (grant.granted.expiresIn - source.refreshMargin) (24 * 60 * 60) ≤ now
  /-- What is cached is what was stored last. -/
  kept : s.token = lastToken s.history
  /-- A call that has failed has stored nothing. -/
  failed : ∀ i, HasFailed (s.calls i) → ∀ e ∈ s.history, e.caller = i → e.act.storedToken? = none

theorem leave_injective : Function.Injective leave := by
  intro outcome outcome' h
  have hnext := eq_of_heq (Program.ask.inj h).2
  exact Program.done.inj (congrFun hnext ())

/-- Who has a token to return has not failed. -/
theorem not_hasFailed (h : stage.HasToken) : ¬HasFailed (source.standing stage) := by
  intro hfailed
  generalize hstanding : source.standing stage = standing at hfailed
  cases stage with
  | leaving outcome =>
    cases hfailed with
    | leaving failure =>
      obtain rfl := leave_injective (Interleaving.Standing.running.inj hstanding)
      exact h
    | left | dropped => cases hstanding
  | left outcome =>
    cases hfailed with
    | left failure =>
      cases hstanding
      exact h
    | leaving | dropped => cases hstanding
  | _ => exact h

/-- A call that has returned has left with its outcome. -/
theorem eq_left_of_standing {outcome : Except CredentialError String}
    (h : source.standing stage = .running (.done outcome)) : stage = .left outcome := by
  cases stage with
  | left outcome =>
    cases h
    rfl
  | _ => cases h

/-- **Calls for a service token serve no stale token**, whatever is answered to them and whoever is
dropped. -/
theorem getToken_servesFresh (source : TokenSource) (moves : List Move) :
    ServesFresh source (State.run (fun _ ↦ source.getToken) moves) := by
  have hr := Interleaving.remembers_run (fun _ ↦ source.getToken) moves
  obtain ⟨f, hstands, h⟩ := orderly_run source moves
  refine ⟨fun i token hi hown ↦ ?_, fun later now i request earlier grant stamp hsplit hkept ↦ ?_,
    hr.token, fun i hfailed e he hcaller ↦ ?_⟩
  · have hknows := h.knows i
    rw [eq_left_of_standing ((hstands i).symm.trans hi)] at hknows
    rcases hknows with ⟨later, now, earlier, grant, stamp, hsplit, hkept, htoken, hlt⟩ | hgranted
    · refine ⟨later, now, earlier, grant, stamp, hsplit, hkept, htoken, hlt, ?_⟩
      intro issued hissued
      -- the check is after the store, so a token that is good for no time at all is not served
      obtain ⟨time, hstored, -, hstamp⟩ := hkept.stored
      have hnow : stamp ≤ now := hstamp.trans (hr.time_le hsplit hstored)
      rw [lifetime] at hlt
      omega
    · obtain ⟨e, he, hcaller, hgrant⟩ := hgranted
      rw [hown e he hcaller] at hgrant
      cases hgrant
  · obtain ⟨c, hread, hle⟩ := h.asks later _ earlier hsplit request rfl _ hkept.cached
    exact hle.trans (hr.time_le hsplit hread)
  · refine Option.not_isSome_iff_eq_none.1 fun hstore ↦ ?_
    have htoken := h.stores e he hstore
    rw [hcaller] at htoken
    exact not_hasFailed htoken (hstands i ▸ hfailed)

namespace Sample

/-- A source with a margin of a minute. -/
def minuteMargin : TokenSource :=
  ⟨"https://tenant/oauth/token", "id", "secret", "audience", 60⟩

/-- What the endpoint answers: a token for 61 seconds. -/
def granted : Http.Response :=
  ⟨200, "\x7b\"access_token\":\"abc\",\"expires_in\":61\x7d".toUTF8.toList⟩

/-- One call is granted a token, and some time later another one looks for it. -/
def moves (duration : Nat) : List Move :=
  [.act 0 0, .act 0 0, .act 0 0, .receive 0 (.ok granted), .act 0 0, .act 0 0, .act 0 0,
    .pass duration, .act 1 0, .act 1 0, .act 1 0, .act 1 0]

/-- The state after that. -/
def state (duration : Nat) : State (Except CredentialError String) :=
  State.run (fun _ ↦ minuteMargin.getToken) (moves duration)

end Sample

/-- The token is kept for a second. -/
example : (Sample.state 999).calls 1 matches .running (.done (.ok "abc")) := by decide +kernel

example : (Sample.state 1000).calls 1 matches .waiting _ _ := by decide +kernel

end TokenSource

end AccountDirectory
