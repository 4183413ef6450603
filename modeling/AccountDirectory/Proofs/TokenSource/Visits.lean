import AccountDirectory.Proofs.TokenSource.Freshness

/-!
# Visits to the kept token

A call for a service token takes the lock once, and from then on it does one **visit**: it looks at
what is kept, and returns that, or asks for a token of its own, or is dropped while it waits for the
answer. `Visit` says for each stage what the call has done since it took the lock, as a fact about
its own acts and about what was kept when it took the lock.

**The invariant.** What is kept does not change while a call visits, until the call stores a token
itself (`unchanged`); so what it finds is what was kept when it came (`visit`), and a call that has
not come yet has done nothing (`untouched`). Nothing else is needed to know how a call that has
finished came to its outcome: `Settles` lists the three ways.
-/

namespace AccountDirectory

open Interleaving (State Move Act Event Remembers lastToken)

/-! ### The acts of one call -/

namespace Interleaving

variable {i : Nat} {e : Event} {act : Act} {history later earlier : List Event}

/-- **What a call was seen to do**, the newest first. -/
def acts (i : Nat) (history : List Event) : List Act :=
  (history.filter (·.caller = i)).map (·.act)

theorem acts_cons_self (time : Nat) :
    acts i (⟨time, i, act⟩ :: history) = act :: acts i history := by
  rw [acts, List.filter_cons_of_pos (by simp), List.map_cons, acts]

theorem acts_cons_of_ne (h : e.caller ≠ i) : acts i (e :: history) = acts i history := by
  rw [acts, List.filter_cons_of_neg (by simpa using h), acts]

theorem acts_append : acts i (later ++ earlier) = acts i later ++ acts i earlier := by
  rw [acts, List.filter_append, List.map_append, acts, acts]

theorem mem_acts_iff : act ∈ acts i history ↔ ∃ time, ⟨time, i, act⟩ ∈ history := by
  rw [acts, List.mem_map]
  constructor
  · rintro ⟨⟨time, caller, act⟩, he, rfl⟩
    obtain ⟨hmem, hcaller⟩ := List.mem_filter.1 he
    obtain rfl := of_decide_eq_true hcaller
    exact ⟨time, hmem⟩
  · rintro ⟨time, hmem⟩
    exact ⟨_, List.mem_filter.2 ⟨hmem, decide_eq_true rfl⟩, rfl⟩

/-- **The call took the lock** after the events `earlier`, and `later` has happened since. -/
def SinceLock (history : List Event) (i : Nat) (later earlier : List Event) : Prop :=
  ∃ time, history = later ++ ⟨time, i, .did .lockToken ()⟩ :: earlier

theorem sinceLock_cons_iff : SinceLock (e :: history) i later earlier ↔
    (later = [] ∧ e.caller = i ∧ e.act = .did .lockToken () ∧ earlier = history) ∨
      ∃ rest, later = e :: rest ∧ SinceLock history i rest earlier := by
  constructor
  · rintro ⟨time, hsplit⟩
    rcases later with - | ⟨e', rest⟩
    · obtain ⟨rfl, rfl⟩ := List.cons.inj hsplit
      exact .inl ⟨rfl, rfl, rfl, rfl⟩
    · obtain ⟨rfl, hrest⟩ := List.cons.inj hsplit
      exact .inr ⟨rest, rfl, time, hrest⟩
  · rintro (⟨rfl, rfl, hact, rfl⟩ | ⟨rest, rfl, time, rfl⟩)
    · exact ⟨e.time, by rw [← hact]; rfl⟩
    · exact ⟨time, rfl⟩

theorem SinceLock.later_prefix (h : SinceLock history i later earlier) : later <+: history := by
  obtain ⟨time, rfl⟩ := h
  exact List.prefix_append _ _

theorem SinceLock.earlier_suffix (h : SinceLock history i later earlier) :
    earlier <:+ history := by
  obtain ⟨time, rfl⟩ := h
  exact (List.suffix_cons _ _).trans (List.suffix_append _ _)

/-- What was done since is done. -/
theorem SinceLock.mem_acts (h : SinceLock history i later earlier) (hact : act ∈ acts i later) :
    act ∈ acts i history := by
  obtain ⟨time, hmem⟩ := mem_acts_iff.1 hact
  exact mem_acts_iff.2 ⟨time, h.later_prefix.subset hmem⟩

/-- Who took the lock has done something. -/
theorem SinceLock.acts_ne_nil (h : SinceLock history i later earlier) : acts i history ≠ [] := by
  obtain ⟨time, rfl⟩ := h
  rw [acts_append, acts_cons_self]
  exact List.append_ne_nil_of_right_ne_nil _ (List.cons_ne_nil _ _)

end Interleaving

open Interleaving (acts SinceLock)

namespace TokenSource

variable {source : TokenSource} {s s' t : State (Except CredentialError String)} {f : Nat → Stage}
  {i : Nat} {old stage : Stage} {act : Act} {kept : Option CachedToken} {done : List Act}

/-! ### What a call does in a visit -/

/-- What was kept is no longer good, as the call has read from the clock. -/
def Refused (kept : Option CachedToken) (done : List Act) : Prop :=
  ∀ entry, kept = some entry → ∃ now, .did .steadyClock now ∈ done ∧ entry.refreshAt ≤ now

/-- **How a call comes to its outcome.** -/
inductive Settles (source : TokenSource) (kept : Option CachedToken) (done : List Act) :
    Except CredentialError String → Prop
  /-- What was kept is still good, and nothing is sent. -/
  | shared {entry now} (hkept : kept = some entry) (hread : .did .steadyClock now ∈ done)
    (hgood : now < entry.refreshAt) (hquiet : ∀ request, .sent request ∉ done) :
    Settles source kept done (.ok entry.token)
  /-- The call sends a request of its own, and its outcome is what the answer says. -/
  | own {request answer} (hrequest : source.request = .ok request) (hrefused : Refused kept done)
    (hsent : .sent request ∈ done) (hgot : .got request answer ∈ done) :
    Settles source kept done ((GrantedToken.ofAnswer answer).map (·.token))
  /-- There is no request that the call could send. -/
  | unbuilt {failure} (hrequest : source.request = .error failure)
    (hrefused : Refused kept done) : Settles source kept done (.error (.request failure.message))

/-- The call was granted a token by the answer to its own request. -/
structure IsGranted (source : TokenSource) (kept : Option CachedToken) (done : List Act)
    (granted : GrantedToken) : Prop where
  refused : Refused kept done
  answered : ∃ request answer, source.request = .ok request ∧ .sent request ∈ done ∧
    .got request answer ∈ done ∧ GrantedToken.ofAnswer answer = .ok granted

/-- **What a call has done in its visit** when it is at a stage. -/
def Visit (source : TokenSource) (kept : Option CachedToken) (done : List Act) : Stage → Prop
  | .outside => False
  | .entered => done = []
  | .looked entry => kept = some entry ∧ ∀ request, .sent request ∉ done
  | .asking request => source.request = .ok request ∧ Refused kept done
  | .awaiting request => source.request = .ok request ∧ Refused kept done ∧ .sent request ∈ done
  | .granted granted | .stamped granted _ => IsGranted source kept done granted
  | .leaving outcome | .left outcome => Settles source kept done outcome
  | .dropped => Refused kept done ∧ ∃ request, .sent request ∈ done

theorem Refused.cons (h : Refused kept done) (act : Act) : Refused kept (act :: done) := by
  intro entry hentry
  obtain ⟨now, hread, hle⟩ := h entry hentry
  exact ⟨now, List.mem_cons_of_mem act hread, hle⟩

theorem IsGranted.cons {granted : GrantedToken} (h : IsGranted source kept done granted)
    (act : Act) : IsGranted source kept (act :: done) granted := by
  obtain ⟨hrefused, request, answer, hrequest, hsent, hgot, hanswer⟩ := h
  exact ⟨hrefused.cons act, request, answer, hrequest, List.mem_cons_of_mem act hsent,
    List.mem_cons_of_mem act hgot, hanswer⟩

/-- A call that was granted a token returns it. -/
theorem IsGranted.settles {granted : GrantedToken} (h : IsGranted source kept done granted) :
    Settles source kept done (.ok granted.token) := by
  obtain ⟨hrefused, request, answer, hrequest, hsent, hgot, hanswer⟩ := h
  have hown := Settles.own hrequest hrefused hsent hgot
  rwa [hanswer] at hown

/-- The last act of a visit, which sends nothing, leaves the outcome as it is. -/
theorem Settles.cons {outcome : Except CredentialError String}
    (h : Settles source kept done outcome) (hact : ∀ request, act ≠ .sent request) :
    Settles source kept (act :: done) outcome := by
  cases h with
  | shared hkept hread hgood hquiet =>
    refine .shared hkept (List.mem_cons_of_mem act hread) hgood fun request hmem ↦ ?_
    exact (List.mem_cons.1 hmem).elim (fun heq ↦ hact request heq.symm) (hquiet request)
  | own hrequest hrefused hsent hgot =>
    exact .own hrequest (hrefused.cons act) (List.mem_cons_of_mem act hsent)
      (List.mem_cons_of_mem act hgot)
  | unbuilt hrequest hrefused => exact .unbuilt hrequest (hrefused.cons act)

/-- Who needs a new token asks for one, if there is a request for it. -/
theorem visit_demanding (h : Refused kept done) : Visit source kept done source.demanding := by
  rw [demanding]
  rcases hrequest : source.request with failure | request
  · exact .unbuilt hrequest h
  · exact ⟨hrequest, h⟩

/-- Who has found something checks it. -/
theorem visit_afterLook (found : Option CachedToken) :
    Visit source found [.did .cachedToken found] (source.afterLook found) := by
  rcases found with - | entry
  · exact visit_demanding nofun
  · exact ⟨rfl, fun request hmem ↦ by cases List.mem_singleton.1 hmem⟩

/-- Who has found a token returns it while it is good, and otherwise knows that it is not. -/
theorem visit_afterCheck {entry : CachedToken} {now : Nat}
    (h : Visit source kept done (.looked entry)) :
    Visit source kept (.did .steadyClock now :: done) (source.afterCheck entry now) := by
  obtain ⟨rfl, hquiet⟩ := h
  rw [afterCheck]
  split_ifs with hgood
  · refine .shared rfl List.mem_cons_self hgood fun request hmem ↦ ?_
    rcases List.mem_cons.1 hmem with hself | hmem
    · cases hself
    · exact hquiet request hmem
  · refine visit_demanding fun entry' hentry ↦ ?_
    obtain rfl := Option.some.inj hentry
    exact ⟨now, List.mem_cons_self, Nat.le_of_not_lt hgood⟩

/-- Who gets an answer has a token to keep, or leaves with the error of the answer. -/
theorem visit_afterAnswer {request : Http.Request}
    (h : Visit source kept done (.awaiting request))
    (answer : Except Http.TransportFailure Http.Response) :
    Visit source kept (.got request answer :: done) (afterAnswer answer) := by
  obtain ⟨hrequest, hrefused, hsent⟩ := h
  have hrefused' : Refused kept (.got request answer :: done) := hrefused.cons _
  have hsent' : Act.sent request ∈ .got request answer :: done := List.mem_cons_of_mem _ hsent
  rw [afterAnswer]
  rcases hanswer : GrantedToken.ofAnswer answer with failure | granted
  · have hown := Settles.own hrequest hrefused' hsent' List.mem_cons_self
    rwa [hanswer] at hown
  · exact ⟨hrefused', request, answer, hrequest, hsent', List.mem_cons_self, hanswer⟩

/-- A call that has not refused what was kept returns just that, and sends nothing. -/
theorem Visit.of_not_refused (h : Visit source kept done stage) (hneeded : ¬Refused kept done) :
    (∀ request, .sent request ∉ done) ∧ stage ≠ .dropped ∧
      ∀ outcome, stage = .left outcome → ∃ entry now, kept = some entry ∧
        .did .steadyClock now ∈ done ∧ outcome = .ok entry.token := by
  have hsettles : ∀ outcome, Settles source kept done outcome →
      (∀ request, .sent request ∉ done) ∧ ∃ entry now, kept = some entry ∧
        .did .steadyClock now ∈ done ∧ outcome = .ok entry.token := by
    intro outcome hs
    cases hs with
    | shared hkept hread hgood hquiet => exact ⟨hquiet, _, _, hkept, hread, rfl⟩
    | own _ hrefused | unbuilt _ hrefused => exact absurd hrefused hneeded
  cases stage with
  | outside => exact h.elim
  | entered =>
    obtain rfl : done = [] := h
    exact ⟨fun _ ↦ List.not_mem_nil, nofun, nofun⟩
  | looked entry => exact ⟨h.2, nofun, nofun⟩
  | asking request => exact absurd h.2 hneeded
  | awaiting request => exact absurd h.2.1 hneeded
  | granted | stamped => exact absurd (IsGranted.refused h) hneeded
  | leaving outcome => exact ⟨(hsettles outcome h).1, nofun, nofun⟩
  | left outcome =>
    obtain ⟨hquiet, hkept⟩ := hsettles outcome h
    refine ⟨hquiet, nofun, fun outcome' heq ↦ ?_⟩
    obtain rfl := Stage.left.inj heq
    exact hkept
  | dropped => exact absurd h.1 hneeded

theorem isInside_afterLook (found : Option CachedToken) : (source.afterLook found).IsInside := by
  rcases found with - | entry
  · exact isInside_demanding
  · trivial

theorem isInside_afterCheck (entry : CachedToken) (now : Nat) :
    (source.afterCheck entry now).IsInside := by
  rw [afterCheck]
  split_ifs
  · trivial
  · exact isInside_demanding

theorem isInside_afterAnswer (answer : Except Http.TransportFailure Http.Response) :
    (afterAnswer answer).IsInside := by
  rw [afterAnswer]
  rcases GrantedToken.ofAnswer answer with failure | granted <;> trivial

/-! ### The invariant -/

/-- A call at this stage has the lock and has not stored a token. -/
def Stage.IsBusy : Stage → Prop
  | .outside | .leaving _ | .left _ | .dropped => False
  | _ => True

/-- A call at this stage has taken the lock, and has not been dropped. -/
def Stage.HasCome : Stage → Prop
  | .outside | .dropped => False
  | _ => True

theorem Stage.IsBusy.isInside (h : stage.IsBusy) : stage.IsInside := by
  cases stage with
  | outside | leaving | left | dropped => exact h.elim
  | _ => trivial

theorem Stage.IsInside.hasCome (h : stage.IsInside) : stage.HasCome := by
  cases stage with
  | outside | left | dropped => exact h.elim
  | _ => trivial

/-- **Each call is in its visit**, at the stages `f`. -/
structure Visiting (source : TokenSource) (s : State (Except CredentialError String))
    (f : Nat → Stage) : Prop where
  untouched : ∀ i, f i = .outside → acts i s.history = []
  came : ∀ i, (f i).HasCome → ∃ later earlier, SinceLock s.history i later earlier
  visit : ∀ i later earlier, SinceLock s.history i later earlier →
    Visit source (lastToken earlier) (acts i later) (f i)
  unchanged : ∀ i later earlier, SinceLock s.history i later earlier → (f i).IsBusy →
    lastToken s.history = lastToken earlier

/-- **One turn keeps the invariant** if the call that turns goes on with its visit. -/
theorem Visiting.turn (h : Visiting source s f) (ho : Orderly source s f) (hi : f i = old)
    (hhistory : t.history = s.history) (hclock : t.clock = s.clock)
    (hact : act ≠ .did .lockToken ()) (houtside : stage ≠ .outside)
    (hcame : stage.HasCome → old.HasCome)
    (hbusy : stage.IsBusy → old.IsBusy ∧ act.storedToken? = none)
    (hquiet : act.storedToken? = none ∨ old.IsInside)
    (hvisit : ∀ kept done, Visit source kept done old →
      (old.IsBusy → lastToken s.history = kept) → Visit source kept (act :: done) stage) :
    Visiting source (source.turn t i stage act) (Function.update f i stage) := by
  subst hi
  have hput : (source.turn t i stage act).history = ⟨s.clock, i, act⟩ :: s.history := by
    rw [← hclock, ← hhistory]
    rfl
  -- nobody has just taken the lock, so every visit was under way
  have hsince : ∀ k later earlier, SinceLock (⟨s.clock, i, act⟩ :: s.history) k later earlier →
      ∃ rest, later = ⟨s.clock, i, act⟩ :: rest ∧ SinceLock s.history k rest earlier := by
    intro k later earlier hs
    exact (Interleaving.sinceLock_cons_iff.1 hs).resolve_left fun hnew ↦ hact hnew.2.2.1
  refine ⟨fun k hk ↦ ?_, fun k hk ↦ ?_, fun k later earlier hs ↦ ?_, fun k later earlier hs hk ↦ ?_⟩
  · rw [hput]
    by_cases hki : k = i
    · rw [hki, Function.update_self] at hk
      exact absurd hk houtside
    · rw [Function.update_of_ne hki] at hk
      rw [Interleaving.acts_cons_of_ne (Ne.symm hki)]
      exact h.untouched k hk
  · have hwas : (f k).HasCome := by
      by_cases hki : k = i
      · rw [hki, Function.update_self] at hk
        exact hki ▸ hcame hk
      · rwa [Function.update_of_ne hki] at hk
    obtain ⟨later, earlier, hs⟩ := h.came k hwas
    exact ⟨_, earlier, hput ▸ Interleaving.sinceLock_cons_iff.2 (.inr ⟨later, rfl, hs⟩)⟩
  · rw [hput] at hs
    obtain ⟨rest, rfl, hrest⟩ := hsince k later earlier hs
    by_cases hki : k = i
    · subst hki
      rw [Function.update_self, Interleaving.acts_cons_self]
      exact hvisit _ _ (h.visit k rest earlier hrest) (h.unchanged k rest earlier hrest)
    · rw [Function.update_of_ne hki, Interleaving.acts_cons_of_ne (Ne.symm hki)]
      exact h.visit k rest earlier hrest
  · rw [hput] at hs ⊢
    obtain ⟨rest, -, hrest⟩ := hsince k later earlier hs
    by_cases hki : k = i
    · subst hki
      rw [Function.update_self] at hk
      obtain ⟨hbusy, hstored⟩ := hbusy hk
      exact (Interleaving.lastToken_cons hstored).trans (h.unchanged k rest earlier hrest hbusy)
    · rw [Function.update_of_ne hki] at hk
      -- only a call that is inside stores a token, and then the others are not
      have hstored : act.storedToken? = none := hquiet.resolve_right fun hin ↦
        ho.not_isInside hin hki hk.isInside
      exact (Interleaving.lastToken_cons hstored).trans (h.unchanged k rest earlier hrest hk)

/-- A turn of a call that has the lock, keeps it and stores nothing. -/
theorem Visiting.turn_of_isBusy (h : Visiting source s f) (ho : Orderly source s f) (hi : f i = old)
    (hold : old.IsBusy) (hstored : act.storedToken? = none) (hact : act ≠ .did .lockToken ())
    (hstage : stage.IsInside)
    (hvisit : ∀ kept done, Visit source kept done old → lastToken s.history = kept →
      Visit source kept (act :: done) stage) :
    Visiting source (source.turn s i stage act) (Function.update f i stage) :=
  h.turn ho hi rfl rfl hact (fun hout ↦ (hout ▸ hstage).elim) (fun _ ↦ hold.isInside.hasCome)
    (fun _ ↦ ⟨hold, hstored⟩) (.inl hstored) fun kept done hv hkept ↦
      hvisit kept done hv (hkept hold)

/-- Who comes in begins its visit. -/
theorem Visiting.locked (h : Visiting source s f) (hi : f i = .outside) :
    Visiting source (source.turn { s with holder := some i } i .entered (.did .lockToken ()))
      (Function.update f i .entered) := by
  have hput : (source.turn { s with holder := some i } i .entered (.did .lockToken ())).history =
      ⟨s.clock, i, .did .lockToken ()⟩ :: s.history := rfl
  have hnew : ∀ later earlier, ¬SinceLock s.history i later earlier := fun later earlier hs ↦
    hs.acts_ne_nil (h.untouched i hi)
  have hlast : lastToken (⟨s.clock, i, .did .lockToken ()⟩ :: s.history) = lastToken s.history :=
    Interleaving.lastToken_cons rfl
  refine ⟨fun k hk ↦ ?_, fun k hk ↦ ?_, fun k later earlier hs ↦ ?_, fun k later earlier hs hk ↦ ?_⟩
  · by_cases hki : k = i
    · rw [hki, Function.update_self] at hk
      cases hk
    · rw [Function.update_of_ne hki] at hk
      rw [hput, Interleaving.acts_cons_of_ne (Ne.symm hki)]
      exact h.untouched k hk
  · by_cases hki : k = i
    · exact ⟨[], s.history, s.clock, by rw [hput, hki]; rfl⟩
    · rw [Function.update_of_ne hki] at hk
      obtain ⟨later, earlier, hs⟩ := h.came k hk
      exact ⟨_, earlier, hput ▸ Interleaving.sinceLock_cons_iff.2 (.inr ⟨later, rfl, hs⟩)⟩
  · rw [hput] at hs
    rcases Interleaving.sinceLock_cons_iff.1 hs with ⟨rfl, rfl, -, rfl⟩ | ⟨rest, rfl, hrest⟩
    · rw [Function.update_self]
      rfl
    · have hki : k ≠ i := fun hki ↦ hnew rest earlier (hki ▸ hrest)
      rw [Function.update_of_ne hki, Interleaving.acts_cons_of_ne (Ne.symm hki)]
      exact h.visit k rest earlier hrest
  · rw [hput] at hs ⊢
    rcases Interleaving.sinceLock_cons_iff.1 hs with ⟨-, -, -, rfl⟩ | ⟨rest, -, hrest⟩
    · exact hlast
    · have hki : k ≠ i := fun hki ↦ hnew rest earlier (hki ▸ hrest)
      rw [Function.update_of_ne hki] at hk
      exact hlast.trans (h.unchanged k rest earlier hrest hk)

/-- Who is dropped has asked for a token, or has not come. -/
theorem Visiting.dropped (h : Visiting source s f) (ho : Orderly source s f)
    (hi : f i = .outside ∨ ∃ request, f i = .awaiting request) :
    Visiting source
      (source.turn { s with holder := s.holder.filter (· ≠ i) } i .dropped .dropped)
      (Function.update f i .dropped) := by
  obtain hi | ⟨request, hi⟩ := hi
  · exact h.turn ho hi rfl rfl nofun nofun False.elim False.elim (.inl rfl) fun _ _ hv _ ↦ hv.elim
  · refine h.turn ho hi rfl rfl nofun nofun False.elim False.elim (.inl rfl) fun _ _ hv _ ↦ ?_
    exact ⟨hv.2.1.cons _, request, List.mem_cons_of_mem _ hv.2.2⟩

/-- **Each move preserves the invariant.** -/
theorem Visiting.moved {f' : Nat → Stage} (h : Visiting source s f) (ho : Orderly source s f)
    (hr : Remembers s) (hm : Moved source s f s' f') : Visiting source s' f' := by
  cases hm with
  | idle => exact h
  | passed duration => exact ⟨h.untouched, h.came, h.visit, h.unchanged⟩
  | locked hi hfree => exact h.locked hi
  | looked hi =>
    refine h.turn_of_isBusy ho hi trivial rfl nofun (isInside_afterLook _)
      fun kept done hv hkept ↦ ?_
    obtain rfl : done = [] := hv
    rw [← hkept, ← hr.token]
    exact visit_afterLook s.token
  | checked hi =>
    exact h.turn_of_isBusy ho hi trivial rfl nofun (isInside_afterCheck _ _) fun kept done hv _ ↦
      visit_afterCheck hv
  | sent hi =>
    refine h.turn_of_isBusy ho hi trivial rfl nofun trivial fun kept done hv _ ↦ ?_
    exact ⟨hv.1, hv.2.cons _, List.mem_cons_self⟩
  | answered hi answer =>
    exact h.turn_of_isBusy ho hi trivial rfl nofun (isInside_afterAnswer _) fun kept done hv _ ↦
      visit_afterAnswer hv answer
  | stamped hi =>
    exact h.turn_of_isBusy ho hi trivial rfl nofun trivial fun kept done hv _ ↦
      IsGranted.cons hv _
  | stored hi =>
    refine h.turn ho hi rfl rfl nofun nofun (fun _ ↦ trivial) False.elim (.inr trivial)
      fun kept done hv _ ↦ ?_
    exact (IsGranted.cons hv _).settles
  | @unlocked i outcome hi =>
    refine h.turn ho hi rfl rfl nofun nofun (fun _ ↦ trivial) False.elim (.inl rfl)
      fun kept done hv _ ↦ ?_
    have hsettles : Settles source kept done outcome := hv
    exact hsettles.cons fun _ hsent ↦ by cases hsent
  | dropped hi => exact h.dropped ho hi

/-- At the beginning nobody has come. -/
theorem visiting_initial :
    Visiting source (State.initial fun _ ↦ source.getToken) fun _ ↦ .outside where
  untouched _ _ := rfl
  came _ hin := hin.elim
  visit _ _ _ hs := absurd rfl hs.acts_ne_nil
  unchanged _ _ _ hs := absurd rfl hs.acts_ne_nil

end TokenSource

end AccountDirectory
