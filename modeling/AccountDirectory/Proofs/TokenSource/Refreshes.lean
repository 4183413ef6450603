import AccountDirectory.Proofs.TokenSource.Visits

/-!
# What becomes of a refresh

A refresh of the service token ends in one of two ways.

* A token is stored. It is then what is kept **until its time is over**: nobody replaces it before
  somebody has read a time from which it is to be replaced (`KeptOrPassed`).
* It ends **in vain**: the answer was an error, or the caller was dropped while it waited. Nothing
  is stored, and until somebody takes the lock what is kept is no longer good (`Passed`), so who
  takes the lock next has to ask anew.

Both hold of every beginning of a history and not only of the whole, since what matters to a call is
how things stood when it took the lock.
-/

namespace AccountDirectory

open Interleaving (State Move Act Event Remembers SinceLock acts lastToken)

namespace TokenSource

variable {source : TokenSource} {s s' t : State (Except CredentialError String)} {f : Nat → Stage}
  {i : Nat} {old stage : Stage} {e : Event} {act : Act} {history : List Event}

/-! ### What a history says of its refreshes -/

/-- What was stored is kept until its time is over. -/
def KeptOrPassed (history : List Event) : Prop :=
  ∀ e ∈ history, ∀ entry, e.act.storedToken? = some entry →
    lastToken history = some entry ∨ ∃ x ∈ history, entry.refreshAt ≤ x.time

/-- The time of what is kept is over. -/
def Passed (history : List Event) : Prop :=
  ∀ entry, lastToken history = some entry → ∃ x ∈ history, entry.refreshAt ≤ x.time

/-- **A refresh ends in vain**: the call gets an answer that is an error, or is dropped after it has
sent its request. -/
def EndsInVain (e : Event) (before : List Event) : Prop :=
  match e.act with
  | .got _ answer => ∃ failure, GrantedToken.ofAnswer answer = .error failure
  | .dropped => ∃ request, .sent request ∈ acts e.caller before
  | _ => False

/-- A refresh has ended in vain, and nobody has taken the lock since. -/
def Broken (history : List Event) : Prop :=
  ∃ later e earlier, history = later ++ e :: earlier ∧ EndsInVain e earlier ∧
    ∀ x ∈ later, x.act ≠ .did .lockToken ()

theorem broken_cons_iff : Broken (e :: history) ↔
    EndsInVain e history ∨ e.act ≠ .did .lockToken () ∧ Broken history := by
  constructor
  · rintro ⟨later, e', earlier, hsplit, hvain, hlater⟩
    rcases later with - | ⟨x, rest⟩
    · obtain ⟨rfl, rfl⟩ := List.cons.inj hsplit
      exact .inl hvain
    · obtain ⟨rfl, rfl⟩ := List.cons.inj hsplit
      obtain ⟨hx, hrest⟩ := List.forall_mem_cons.1 hlater
      exact .inr ⟨hx, rest, e', earlier, rfl, hvain, hrest⟩
  · rintro (hvain | ⟨he, later, e', earlier, rfl, hvain, hlater⟩)
    · exact ⟨[], e, history, rfl, hvain, fun x hx ↦ absurd hx List.not_mem_nil⟩
    · exact ⟨e :: later, e', earlier, rfl, hvain, List.forall_mem_cons.2 ⟨he, hlater⟩⟩

theorem KeptOrPassed.cons (h : KeptOrPassed history) (he : e.act.storedToken? = none) :
    KeptOrPassed (e :: history) := by
  refine List.forall_mem_cons.2 ⟨fun entry hentry ↦ ?_, fun x hx entry hentry ↦ ?_⟩
  · rw [he] at hentry
    cases hentry
  · rw [Interleaving.lastToken_cons he]
    exact (h x hx entry hentry).imp id fun ⟨y, hy, hle⟩ ↦ ⟨y, List.mem_cons_of_mem e hy, hle⟩

theorem Passed.cons (h : Passed history) (he : e.act.storedToken? = none) :
    Passed (e :: history) := by
  intro entry hentry
  rw [Interleaving.lastToken_cons he] at hentry
  obtain ⟨x, hx, hle⟩ := h entry hentry
  exact ⟨x, List.mem_cons_of_mem e hx, hle⟩

/-- A new token takes the place of one whose time is over. -/
theorem KeptOrPassed.store {entry : CachedToken} (h : KeptOrPassed history)
    (hpassed : Passed history) (he : e.act.storedToken? = some entry) :
    KeptOrPassed (e :: history) := by
  have hlast : lastToken (e :: history) = some entry := by
    rw [lastToken, List.findSome?_cons, he]
  refine List.forall_mem_cons.2 ⟨fun entry' hentry ↦ .inl ?_, fun x hx entry' hentry ↦ .inr ?_⟩
  · exact hlast.trans (he.symm.trans hentry)
  · obtain ⟨y, hy, hle⟩ := (h x hx entry' hentry).elim (hpassed entry') id
    exact ⟨y, List.mem_cons_of_mem e hy, hle⟩

/-- While a call has refused what was kept and stored nothing yet, the time of what is kept is
over. -/
theorem Visiting.passed (h : Visiting source s f) (hr : Remembers s) (hbusy : (f i).IsBusy)
    (hrefused : ∀ kept done, Visit source kept done (f i) → Refused kept done) :
    Passed s.history := by
  obtain ⟨later, earlier, hs⟩ := h.came i hbusy.isInside.hasCome
  intro entry hentry
  rw [h.unchanged i later earlier hs hbusy] at hentry
  obtain ⟨now, hread, hle⟩ := hrefused _ _ (h.visit i later earlier hs) entry hentry
  obtain ⟨time, hin⟩ := Interleaving.mem_acts_iff.1 (hs.mem_acts hread)
  exact ⟨_, hin, hle.trans (hr.eq_time_of_read hin rfl).le⟩

/-! ### The invariant -/

/-- **Refreshes are remembered**, at the stages `f`. -/
structure Refreshes (source : TokenSource) (s : State (Except CredentialError String))
    (f : Nat → Stage) : Prop where
  kept : ∀ earlier, earlier <:+ s.history → KeptOrPassed earlier
  passed : ∀ earlier, earlier <:+ s.history → Broken earlier →
    Passed earlier ∧ ∃ request, source.request = .ok request
  /-- After a refresh in vain nobody is inside but to leave. -/
  quiet : Broken s.history → ∀ k, (f k).IsInside → ∃ outcome, f k = .leaving outcome

/-- What holds of all beginnings of a history holds of those of a longer one if it holds of the
whole of it. -/
theorem forall_suffix_cons {p : List Event → Prop} (hp : p (e :: history))
    (h : ∀ earlier, earlier <:+ history → p earlier) :
    ∀ earlier, earlier <:+ e :: history → p earlier := by
  intro earlier hsuffix
  rcases List.suffix_cons_iff.1 hsuffix with rfl | hsuffix
  · exact hp
  · exact h earlier hsuffix

/-- **One turn that stores nothing keeps the invariant.** -/
theorem Refreshes.turn (h : Refreshes source s f) (hi : f i = old)
    (hhistory : t.history = s.history) (hclock : t.clock = s.clock)
    (hstored : act.storedToken? = none)
    (hvain : EndsInVain ⟨s.clock, i, act⟩ s.history →
      (Passed s.history ∧ ∃ request, source.request = .ok request) ∧
        (∀ k, k ≠ i → ¬(f k).IsInside) ∧ (stage.IsInside → ∃ outcome, stage = .leaving outcome))
    (hturn : act = .did .lockToken () ∨ old.IsBusy ∨ ¬stage.IsInside) :
    Refreshes source (source.turn t i stage act) (Function.update f i stage) := by
  subst hi
  have hput : (source.turn t i stage act).history = ⟨s.clock, i, act⟩ :: s.history := by
    rw [← hclock, ← hhistory]
    rfl
  refine ⟨?_, ?_, fun hbroken k hk ↦ ?_⟩
  · rw [hput]
    exact forall_suffix_cons ((h.kept _ (List.suffix_refl _)).cons hstored) h.kept
  · rw [hput]
    refine forall_suffix_cons (fun hbroken ↦ ?_) h.passed
    rcases broken_cons_iff.1 hbroken with hnow | ⟨-, hbefore⟩
    · obtain ⟨⟨hpassed, hrequest⟩, -⟩ := hvain hnow
      exact ⟨hpassed.cons hstored, hrequest⟩
    · obtain ⟨hpassed, hrequest⟩ := h.passed _ (List.suffix_refl _) hbefore
      exact ⟨hpassed.cons hstored, hrequest⟩
  · rw [hput] at hbroken
    by_cases hki : k = i
    · subst hki
      rw [Function.update_self] at hk ⊢
      rcases broken_cons_iff.1 hbroken with hnow | ⟨hlock, hbefore⟩
      · exact (hvain hnow).2.2 hk
      · -- who is not about to leave is not inside, and did not come in either
        rcases hturn with hact | hbusy | hout
        · exact absurd hact hlock
        · obtain ⟨outcome, hleaving⟩ := h.quiet hbefore k hbusy.isInside
          exact (hleaving ▸ hbusy).elim
        · exact absurd hk hout
    · rw [Function.update_of_ne hki] at hk ⊢
      rcases broken_cons_iff.1 hbroken with hnow | ⟨-, hbefore⟩
      · exact absurd hk ((hvain hnow).2.1 k hki)
      · exact h.quiet hbefore k hk

/-- A turn that ends no refresh. -/
theorem Refreshes.turn_of_ongoing (h : Refreshes source s f) (hi : f i = old)
    (hhistory : t.history = s.history) (hclock : t.clock = s.clock)
    (hstored : act.storedToken? = none) (hvain : ¬EndsInVain ⟨s.clock, i, act⟩ s.history)
    (hturn : act = .did .lockToken () ∨ old.IsBusy ∨ ¬stage.IsInside) :
    Refreshes source (source.turn t i stage act) (Function.update f i stage) :=
  h.turn hi hhistory hclock hstored (fun hnow ↦ absurd hnow hvain) hturn

/-- A call that waits for its answer knows that the time of what is kept is over. -/
theorem Visiting.passed_of_awaiting {request : Http.Request} (h : Visiting source s f)
    (hr : Remembers s) (hi : f i = .awaiting request) :
    Passed s.history ∧ source.request = .ok request := by
  have hbusy : (f i).IsBusy := by rw [hi]; trivial
  refine ⟨h.passed hr hbusy fun kept done hv ↦ ?_, ?_⟩
  · rw [hi] at hv
    exact hv.2.1
  · obtain ⟨later, earlier, hs⟩ := h.came i hbusy.isInside.hasCome
    have hv := h.visit i later earlier hs
    rw [hi] at hv
    exact hv.1

theorem Refreshes.answered {request : Http.Request} (h : Refreshes source s f)
    (hv : Visiting source s f) (ho : Orderly source s f) (hr : Remembers s)
    (hi : f i = .awaiting request) (answer : Except Http.TransportFailure Http.Response) :
    Refreshes source (source.turn s i (afterAnswer answer) (.got request answer))
      (Function.update f i (afterAnswer answer)) := by
  refine h.turn hi rfl rfl rfl ?_ (.inr (.inl trivial))
  rintro ⟨failure, hanswer⟩
  obtain ⟨hpassed, hrequest⟩ := hv.passed_of_awaiting hr hi
  have hin : (f i).IsInside := by rw [hi]; trivial
  refine ⟨⟨hpassed, request, hrequest⟩, fun k hk ↦ ho.not_isInside hin hk, fun _ ↦ ?_⟩
  rw [afterAnswer, hanswer]
  exact ⟨_, rfl⟩

theorem Refreshes.dropped (h : Refreshes source s f) (hv : Visiting source s f)
    (ho : Orderly source s f) (hr : Remembers s)
    (hi : f i = .outside ∨ ∃ request, f i = .awaiting request) :
    Refreshes source
      (source.turn { s with holder := s.holder.filter (· ≠ i) } i .dropped .dropped)
      (Function.update f i .dropped) := by
  obtain hi | ⟨request, hi⟩ := hi
  · refine h.turn_of_ongoing hi rfl rfl rfl ?_ (.inr (.inr id))
    rintro ⟨request, hsent⟩
    have hnone : acts i s.history = [] := hv.untouched i hi
    rw [hnone] at hsent
    cases hsent
  · refine h.turn hi rfl rfl rfl (fun _ ↦ ?_) (.inr (.inl trivial))
    obtain ⟨hpassed, hrequest⟩ := hv.passed_of_awaiting hr hi
    have hin : (f i).IsInside := by rw [hi]; trivial
    exact ⟨⟨hpassed, request, hrequest⟩, fun k hk ↦ ho.not_isInside hin hk, False.elim⟩

/-- Who stores a token does so after the time of what was kept. -/
theorem Refreshes.stored {granted : GrantedToken} {now : Nat} (h : Refreshes source s f)
    (hv : Visiting source s f) (hr : Remembers s) (hi : f i = .stamped granted now) :
    Refreshes source
      (source.turn { s with token := some (source.entry granted now) } i
        (.leaving (.ok granted.token)) (.did (.storeToken (source.entry granted now)) ()))
      (Function.update f i (.leaving (.ok granted.token))) := by
  have hbusy : (f i).IsBusy := by rw [hi]; trivial
  have hpassed : Passed s.history := hv.passed hr hbusy fun kept done hvisit ↦ by
    rw [hi] at hvisit
    exact hvisit.refused
  have hwhole : ¬Broken s.history := fun hbroken ↦ by
    obtain ⟨outcome, hleaving⟩ := h.quiet hbroken i hbusy.isInside
    exact (hleaving ▸ hbusy).elim
  have hstill : ¬Broken (⟨s.clock, i, .did (.storeToken (source.entry granted now)) ()⟩ ::
      s.history) := fun hbroken ↦
    hwhole ((broken_cons_iff.1 hbroken).elim False.elim And.right)
  exact ⟨forall_suffix_cons ((h.kept _ (List.suffix_refl _)).store hpassed rfl) h.kept,
    forall_suffix_cons (fun hbroken ↦ absurd hbroken hstill) h.passed,
    fun hbroken ↦ absurd hbroken hstill⟩

/-- **Each move preserves the invariant.** -/
theorem Refreshes.moved {f' : Nat → Stage} (h : Refreshes source s f) (hv : Visiting source s f)
    (ho : Orderly source s f) (hr : Remembers s) (hm : Moved source s f s' f') :
    Refreshes source s' f' := by
  cases hm with
  | idle => exact h
  | passed duration => exact ⟨h.kept, h.passed, h.quiet⟩
  | locked hi hfree => exact h.turn_of_ongoing hi rfl rfl rfl id (.inl rfl)
  | looked hi => exact h.turn_of_ongoing hi rfl rfl rfl id (.inr (.inl trivial))
  | checked hi => exact h.turn_of_ongoing hi rfl rfl rfl id (.inr (.inl trivial))
  | sent hi => exact h.turn_of_ongoing hi rfl rfl rfl id (.inr (.inl trivial))
  | answered hi answer => exact h.answered hv ho hr hi answer
  | stamped hi => exact h.turn_of_ongoing hi rfl rfl rfl id (.inr (.inl trivial))
  | stored hi => exact h.stored hv hr hi
  | unlocked hi => exact h.turn_of_ongoing hi rfl rfl rfl id (.inr (.inr id))
  | dropped hi => exact h.dropped hv ho hr hi

/-- At the beginning nothing has happened. -/
theorem refreshes_initial :
    Refreshes source (State.initial fun _ ↦ source.getToken) fun _ ↦ .outside where
  kept earlier hsuffix := by
    obtain rfl : earlier = [] := List.suffix_nil.1 hsuffix
    exact fun e he ↦ absurd he List.not_mem_nil
  passed earlier hsuffix := by
    obtain rfl : earlier = [] := List.suffix_nil.1 hsuffix
    rintro ⟨later, e, rest, hsplit, -⟩
    simp at hsplit
  quiet _ _ hin := hin.elim

/-! ### The whole schedule -/

/-- **All that is known** of the stages `f`. -/
structure InOrder (source : TokenSource) (s : State (Except CredentialError String))
    (f : Nat → Stage) : Prop where
  remembers : Remembers s
  stands : source.Stands s f
  orderly : Orderly source s f
  visiting : Visiting source s f
  refreshes : Refreshes source s f

theorem inOrder_initial :
    InOrder source (State.initial fun _ ↦ source.getToken) fun _ ↦ .outside :=
  ⟨Interleaving.remembers_run _ [], stands_initial, orderly_initial, visiting_initial,
    refreshes_initial⟩

/-- **Each move keeps all of it.** -/
theorem InOrder.change (h : InOrder source s f) (hc : s.Change s') :
    ∃ f', Moved source s f s' f' ∧ InOrder source s' f' := by
  obtain ⟨f', hm, hstands⟩ := moved_of_change h.stands hc
  exact ⟨f', hm, h.remembers.change hc, hstands, h.orderly.moved h.remembers hm,
    h.visiting.moved h.orderly h.remembers hm,
    h.refreshes.moved h.visiting h.orderly h.remembers hm⟩

/-- **After every schedule** the calls are in order. -/
theorem inOrder_run (source : TokenSource) (moves : List Move) :
    ∃ f, InOrder source (State.run (fun _ ↦ source.getToken) moves) f :=
  State.run_induction (p := fun s ↦ ∃ f, InOrder source s f) ⟨_, inOrder_initial⟩
    (fun _ _ ⟨_, h⟩ hc ↦ (h.change hc).imp fun _ ↦ And.right) moves

end TokenSource

end AccountDirectory
