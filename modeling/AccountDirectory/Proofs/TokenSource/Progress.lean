import AccountDirectory.Proofs.TokenSource.Refreshes

/-!
# Every call for a service token comes to an end

An endless schedule is a sequence of moves, and `stateAt` is the state after the first of them. A
schedule is **fair** to a call if it is polled as long as it has something to do, the requests of
the calls before it are answered or dropped, and whoever comes to the lock first gets it first
(`IsFair`). Nothing is assumed of the calls that come later.

**Why a call ends.** Each turn of a call takes it to a stage of a lower rank (`Moved.turned`), so a
call that has the lock ends. A call that waits for the lock can only wait for calls that came to it
before (`Course.exists_taken`), and these are finitely many; once they have ended, the lock is free
whenever the call is polled (`Course.holder_eq_none`). The induction is on the first move of a call.
-/

namespace AccountDirectory

open Interleaving (State Standing Move Event)

/-! ### Moves that are possible -/

namespace Interleaving.State

variable {α : Type} {s : State α} {i : Nat}

/-- A call that is polled does its next operation, unless it waits for the lock. -/
theorem step_act {op : Effect} {next : op.Answer → Procedure α} (calendar : Nat)
    (hi : s.calls i = .running (.ask op next)) (hlock : op = .lockToken → s.holder = none) :
    ∃ act, (s.step (.act i calendar)).history = ⟨s.clock, i, act⟩ :: s.history := by
  rw [step, hi]
  cases op with
  | lockToken =>
    simp only [goOn, perform, if_pos (hlock rfl)]
    exact ⟨_, rfl⟩
  | _ => exact ⟨_, rfl⟩

/-- A call that waits for an answer gets it. -/
theorem step_receive {request : Http.Request}
    {next : Except Http.TransportFailure Http.Response → Procedure α}
    (hi : s.calls i = .waiting request next)
    (answer : Except Http.TransportFailure Http.Response) :
    (s.step (.receive i answer)).history = ⟨s.clock, i, .got request answer⟩ :: s.history := by
  rw [step, hi]
  rfl

/-- A call that waits for an answer can be dropped. -/
theorem step_drop {request : Http.Request}
    {next : Except Http.TransportFailure Http.Response → Procedure α}
    (hi : s.calls i = .waiting request next) :
    (s.step (.drop i)).history = ⟨s.clock, i, .dropped⟩ :: s.history := by
  rw [step, hi]
  rfl

/-- Only a call that is polled takes the lock. -/
theorem eq_act_of_taken {m : Move} {h : Nat} (hfree : s.holder = none)
    (htaken : (s.step m).holder = some h) : ∃ calendar, m = .act h calendar := by
  have hsame : s.holder ≠ some h := hfree ▸ (Option.some_ne_none h).symm
  cases m with
  | pass duration => exact absurd htaken hsame
  | act i calendar =>
    rw [step] at htaken
    split at htaken
    · next op next hi =>
      cases op with
      | lockToken =>
        simp only [goOn, perform, if_pos hfree] at htaken
        obtain rfl := Option.some.inj htaken
        exact ⟨calendar, rfl⟩
      | unlockToken => cases htaken
      | _ => exact absurd htaken hsame
    · exact absurd htaken hsame
  | receive i answer =>
    rw [step] at htaken
    split at htaken <;> exact absurd htaken hsame
  | drop i =>
    have hnone : s.holder.filter (· ≠ i) ≠ some h := hfree ▸ (Option.some_ne_none h).symm
    rw [step] at htaken
    split at htaken
    · exact absurd htaken hnone
    · exact absurd htaken hnone
    · exact absurd htaken hsame

end Interleaving.State

namespace TokenSource

variable {source : TokenSource}

/-! ### Endless schedules -/

/-- The state after the first moves of an endless schedule. -/
def stateAt (source : TokenSource) (moves : ℕ → Move) (n : ℕ) :
    State (Except CredentialError String) :=
  State.run (fun _ ↦ source.getToken) ((List.range n).map moves)

/-- The first call comes to the lock no later than the second: when it is polled, the second has not
been polled yet. -/
def ComesBy (moves : ℕ → Move) (k i : Nat) : Prop :=
  ∃ n calendar, moves n = .act k calendar ∧ ∀ m < n, ∀ calendar, moves m ≠ .act i calendar

/-- **A schedule that is fair to a call.** -/
structure IsFair (source : TokenSource) (moves : ℕ → Move) (i : Nat) : Prop where
  comes : ∃ n calendar, moves n = .act i calendar
  /-- Whoever comes to the lock first gets it first. -/
  queue : ∀ n h k, (stateAt source moves n).holder = none →
    (stateAt source moves (n + 1)).holder = some h → k ≠ h → ComesBy moves k h →
      ∀ next, (stateAt source moves n).calls k ≠ .running (.ask .lockToken next)
  /-- Who has something to do is polled. -/
  polled : ∀ k, ComesBy moves k i → ∀ n op next,
    (stateAt source moves n).calls k = .running (.ask op next) →
      ∃ m, n ≤ m ∧ ∃ calendar, moves m = .act k calendar
  /-- Who waits for an answer gets one, or is dropped. -/
  answered : ∀ k, ComesBy moves k i → ∀ n request next,
    (stateAt source moves n).calls k = .waiting request next →
      ∃ m, n ≤ m ∧ ((∃ answer, moves m = .receive k answer) ∨ moves m = .drop k)

theorem stateAt_succ (moves : ℕ → Move) (n : ℕ) :
    stateAt source moves (n + 1) = (stateAt source moves n).step (moves n) := by
  rw [stateAt, List.range_succ, List.map_append, State.run, List.foldl_append]
  rfl

/-! ### Ranks -/

namespace Stage

/-- How far a call is from its end. -/
@[simp]
def rank : Stage → ℕ
  | outside => 8
  | entered => 7
  | looked _ => 6
  | asking _ => 5
  | awaiting _ => 4
  | granted _ => 3
  | stamped _ _ => 2
  | leaving _ => 1
  | left _ | dropped => 0

theorem rank_le (stage : Stage) : stage.rank ≤ 8 := by
  cases stage <;> simp

theorem eq_outside_iff {stage : Stage} : stage = .outside ↔ stage.rank = 8 := by
  cases stage <;> simp

theorem ne_outside_of_isInside {stage : Stage} (h : stage.IsInside) : stage ≠ .outside := by
  rintro rfl
  exact h

/-- Who has come to its end is not inside. -/
theorem not_isInside_of_rank_eq_zero {stage : Stage} (h : stage.rank = 0) : ¬stage.IsInside := by
  cases stage with
  | left | dropped => exact id
  | _ => cases h

end Stage

theorem rank_demanding_lt : source.demanding.rank < 6 := by
  rw [demanding]
  rcases source.request with failure | request <;> simp

theorem rank_afterLook_lt (found : Option CachedToken) : (source.afterLook found).rank < 7 := by
  rcases found with - | entry
  · exact rank_demanding_lt.trans (by decide)
  · exact Nat.lt_succ_self 6

theorem rank_afterCheck_lt (entry : CachedToken) (now : Nat) :
    (source.afterCheck entry now).rank < 6 := by
  rw [afterCheck]
  split_ifs
  · exact (by decide : 1 < 6)
  · exact rank_demanding_lt

theorem rank_afterAnswer_lt (answer : Except Http.TransportFailure Http.Response) :
    (afterAnswer answer).rank < 4 := by
  rw [afterAnswer]
  rcases GrantedToken.ofAnswer answer with failure | granted
  · exact (by decide : 1 < 4)
  · exact (by decide : 3 < 4)

section Moved

variable {s s' : State (Except CredentialError String)} {f f' : Nat → Stage}

/-- **A move is a turn of one call to a lower rank**, or changes no call. -/
theorem Moved.turned (h : Moved source s f s' f') : (s'.history = s.history ∧ f' = f) ∨
    ∃ time i act stage, s'.history = ⟨time, i, act⟩ :: s.history ∧
      f' = Function.update f i stage ∧ stage.rank < (f i).rank := by
  cases h with
  | idle | passed => exact .inl ⟨rfl, rfl⟩
  | locked hi hfree => exact .inr ⟨_, _, _, _, rfl, rfl, by simp [hi]⟩
  | looked hi => exact .inr ⟨_, _, _, _, rfl, rfl, by rw [hi]; exact rank_afterLook_lt _⟩
  | checked hi => exact .inr ⟨_, _, _, _, rfl, rfl, by rw [hi]; exact rank_afterCheck_lt _ _⟩
  | sent hi => exact .inr ⟨_, _, _, _, rfl, rfl, by simp [hi]⟩
  | answered hi answer => exact .inr ⟨_, _, _, _, rfl, rfl, by rw [hi]; exact rank_afterAnswer_lt _⟩
  | stamped hi => exact .inr ⟨_, _, _, _, rfl, rfl, by simp [hi]⟩
  | stored hi => exact .inr ⟨_, _, _, _, rfl, rfl, by simp [hi]⟩
  | unlocked hi => exact .inr ⟨_, _, _, _, rfl, rfl, by simp [hi]⟩
  | dropped hi =>
    refine .inr ⟨_, _, _, _, rfl, rfl, ?_⟩
    obtain hi | ⟨request, hi⟩ := hi <;> simp [hi]

/-- A call that was seen to act has a lower rank. -/
theorem Moved.rank_lt (h : Moved source s f s' f') {e : Event}
    (he : s'.history = e :: s.history) : (f' e.caller).rank < (f e.caller).rank := by
  rcases h.turned with ⟨hsame, -⟩ | ⟨time, i, act, stage, hhistory, rfl, hlt⟩
  · exact absurd (hsame.symm.trans he) (List.cons_ne_self _ _).symm
  · obtain rfl := (List.cons.inj (he.symm.trans hhistory)).1
    rwa [Function.update_self]

/-- Any call stays at its stage or comes to a lower rank. -/
theorem Moved.eq_or_rank_lt (h : Moved source s f s' f') (k : Nat) :
    f' k = f k ∨ (f' k).rank < (f k).rank := by
  rcases h.turned with ⟨-, rfl⟩ | ⟨time, i, act, stage, -, rfl, hlt⟩
  · exact .inl rfl
  · by_cases hk : k = i
    · rw [hk, Function.update_self]
      exact .inr hlt
    · exact .inl (Function.update_of_ne hk _ _)

/-- The lock does not go from one call to another at once. -/
theorem Moved.holder_eq (h : Moved source s f s' f') {k : Nat}
    (hk : s'.holder = some k) : s.holder = none ∨ s.holder = some k := by
  cases h with
  | locked hi hfree => exact .inl hfree
  | unlocked => cases hk
  | dropped => exact .inr (Option.filter_eq_some_iff.1 hk).1
  | _ => exact .inr hk

end Moved

/-! ### The course of a schedule -/

/-- Who waits for the lock has not come in. -/
theorem eq_outside_of_standing {stage : Stage}
    {next : Unit → Procedure (Except CredentialError String)}
    (h : source.standing stage = .running (.ask .lockToken next)) : stage = .outside := by
  cases stage with
  | outside => rfl
  | _ => cases h

/-- **The stages of all calls** along an endless schedule. -/
structure Course (source : TokenSource) (moves : ℕ → Move) (f : ℕ → Nat → Stage) : Prop where
  inOrder : ∀ n, InOrder source (stateAt source moves n) (f n)
  moved : ∀ n,
    Moved source (stateAt source moves n) (f n) (stateAt source moves (n + 1)) (f (n + 1))

theorem exists_course (source : TokenSource) (moves : ℕ → Move) : ∃ f, Course source moves f := by
  have hstep : ∀ n (f : {f // InOrder source (stateAt source moves n) f}),
      ∃ f' : {f // InOrder source (stateAt source moves (n + 1)) f},
        Moved source (stateAt source moves n) f.1 (stateAt source moves (n + 1)) f'.1 := by
    intro n f
    have hc := (stateAt source moves n).change_step (moves n)
    rw [← stateAt_succ] at hc
    obtain ⟨f', hm, hf'⟩ := f.2.change hc
    exact ⟨⟨f', hf'⟩, hm⟩
  choose next hnext using hstep
  let course : ∀ n, {f // InOrder source (stateAt source moves n) f} := fun n ↦
    n.rec ⟨_, inOrder_initial⟩ next
  exact ⟨fun n ↦ (course n).1, fun n ↦ (course n).2, fun n ↦ hnext n (course n)⟩

variable {moves : ℕ → Move} {f : ℕ → Nat → Stage} {i k : Nat} {n : ℕ}

namespace Course

/-- Later a call is at the same stage or has a lower rank. -/
theorem eq_or_rank_lt (h : Course source moves f) (k : Nat) {n m : ℕ} (hnm : n ≤ m) :
    f m k = f n k ∨ (f m k).rank < (f n k).rank := by
  induction m, hnm using Nat.le_induction with
  | base => exact .inl rfl
  | succ m hnm ih =>
    rcases (h.moved m).eq_or_rank_lt k with heq | hlt
    · rwa [heq]
    · rcases ih with heq | hlt'
      · exact .inr (heq ▸ hlt)
      · exact .inr (hlt.trans hlt')

theorem rank_le (h : Course source moves f) (k : Nat) {n m : ℕ} (hnm : n ≤ m) :
    (f m k).rank ≤ (f n k).rank := by
  rcases h.eq_or_rank_lt k hnm with heq | hlt
  · rw [heq]
  · exact hlt.le

/-- Who is outside has been outside before. -/
theorem eq_outside_of_le (h : Course source moves f) {n m : ℕ} (hnm : n ≤ m)
    (hout : f m k = .outside) : f n k = .outside := by
  have hle := h.rank_le k hnm
  rw [Stage.eq_outside_iff] at hout ⊢
  exact Nat.le_antisymm (Stage.rank_le _) (hout ▸ hle)

theorem calls_eq (h : Course source moves f) (n : ℕ) (k : Nat) :
    (stateAt source moves n).calls k = source.standing (f n k) := (h.inOrder n).stands k

/-- Who has had the lock does not wait for it again. -/
theorem calls_ne_of_held (h : Course source moves f) {n m : ℕ} (hnm : n ≤ m)
    (hheld : (stateAt source moves n).holder = some k)
    (next : Unit → Procedure (Except CredentialError String)) :
    (stateAt source moves m).calls k ≠ .running (.ask .lockToken next) := by
  have hin : (f n k).IsInside := ((h.inOrder n).orderly.lock k).2 hheld
  rw [h.calls_eq]
  intro hwaits
  exact Stage.ne_outside_of_isInside hin
    (h.eq_outside_of_le hnm (eq_outside_of_standing hwaits))

/-- A call that has something to do and is polled comes to a lower rank. -/
theorem exists_rank_lt_of_running (h : Course source moves f) {op : Effect}
    {next : op.Answer → Procedure (Except CredentialError String)}
    (hrunning : source.standing (f n k) = .running (.ask op next)) {m : ℕ} (hnm : n ≤ m)
    {calendar : Nat} (hm : moves m = .act k calendar)
    (hlock : f m k = f n k → op = .lockToken → (stateAt source moves m).holder = none) :
    ∃ m', n ≤ m' ∧ (f m' k).rank < (f n k).rank := by
  rcases h.eq_or_rank_lt k hnm with heq | hlt
  · have hcalls : (stateAt source moves m).calls k = .running (.ask op next) := by
      rw [h.calls_eq, heq, hrunning]
    obtain ⟨act, hact⟩ := State.step_act calendar hcalls (hlock heq)
    rw [← hm, ← stateAt_succ] at hact
    have hlt := (h.moved m).rank_lt hact
    exact ⟨m + 1, hnm.trans m.le_succ, heq ▸ hlt⟩
  · exact ⟨m, hnm, hlt⟩

/-- A call that waits for an answer comes to a lower rank. -/
theorem exists_rank_lt_of_waiting (h : Course source moves f) {request : Http.Request}
    (hwaiting : f n k = .awaiting request) {m : ℕ} (hnm : n ≤ m)
    (hm : (∃ answer, moves m = .receive k answer) ∨ moves m = .drop k) :
    ∃ m', n ≤ m' ∧ (f m' k).rank < (f n k).rank := by
  rcases h.eq_or_rank_lt k hnm with heq | hlt
  · have hcalls : (stateAt source moves m).calls k = .waiting request source.settle := by
      rw [h.calls_eq, heq, hwaiting]
      rfl
    have hact : ∃ act, (stateAt source moves (m + 1)).history =
        ⟨(stateAt source moves m).clock, k, act⟩ :: (stateAt source moves m).history := by
      rw [stateAt_succ]
      rcases hm with ⟨answer, hm⟩ | hm
      · rw [hm]
        exact ⟨_, State.step_receive hcalls answer⟩
      · rw [hm]
        exact ⟨_, State.step_drop hcalls⟩
    obtain ⟨act, hact⟩ := hact
    have hlt := (h.moved m).rank_lt hact
    exact ⟨m + 1, hnm.trans m.le_succ, heq ▸ hlt⟩
  · exact ⟨m, hnm, hlt⟩

/-- **A call that has the lock comes to a lower rank.** -/
theorem exists_rank_lt_of_isInside (h : Course source moves f) (hfair : IsFair source moves i)
    (hk : ComesBy moves k i) (hin : (f n k).IsInside) :
    ∃ m, n ≤ m ∧ (f m k).rank < (f n k).rank := by
  have hpolled : ∀ op next, op ≠ .lockToken →
      source.standing (f n k) = .running (.ask op next) →
        ∃ m, n ≤ m ∧ (f m k).rank < (f n k).rank := by
    intro op next hop hrunning
    obtain ⟨m, hnm, calendar, hm⟩ := hfair.polled k hk n op next ((h.calls_eq n k).trans hrunning)
    exact h.exists_rank_lt_of_running hrunning hnm hm fun _ heq ↦ absurd heq hop
  cases hstage : f n k with
  | outside | left | dropped =>
    rw [hstage] at hin
    exact hin.elim
  | awaiting request =>
    obtain ⟨m, hnm, hm⟩ := hfair.answered k hk n request source.settle
      (by rw [h.calls_eq, hstage]; rfl)
    exact hstage ▸ h.exists_rank_lt_of_waiting hstage hnm hm
  | _ =>
    rw [hstage] at hpolled
    exact hpolled _ _ (by simp) rfl

/-- **A call that has come in comes to its end.** -/
theorem exists_rank_eq_zero (h : Course source moves f) (hfair : IsFair source moves i)
    (hk : ComesBy moves k i) (hcame : f n k ≠ .outside) :
    ∃ m, n ≤ m ∧ (f m k).rank = 0 := by
  induction hr : (f n k).rank using Nat.strong_induction_on generalizing n with
  | _ r ih =>
    subst hr
    by_cases hover : (f n k).rank = 0
    · exact ⟨n, le_rfl, hover⟩
    · have hin : (f n k).IsInside := by
        cases hstage : f n k with
        | outside => exact absurd hstage hcame
        | left | dropped => exact absurd (hstage ▸ rfl) hover
        | _ => trivial
      obtain ⟨m, hnm, hlt⟩ := h.exists_rank_lt_of_isInside hfair hk hin
      have hm : f m k ≠ .outside := fun hout ↦ hcame (h.eq_outside_of_le hnm hout)
      obtain ⟨m', hmm', hzero⟩ := ih _ hlt hm rfl
      exact ⟨m', hnm.trans hmm', hzero⟩

/-- **Who has the lock while another call waits for it** took it while that call was waiting. -/
theorem exists_taken (h : Course source moves f) {holder : Nat} (hout : f n k = .outside)
    (hholder : (stateAt source moves n).holder = some holder) :
    ∃ m, f m k = .outside ∧ (stateAt source moves m).holder = none ∧
      (stateAt source moves (m + 1)).holder = some holder := by
  induction n with
  | zero => cases hholder
  | succ n ih =>
    have hbefore : f n k = .outside := h.eq_outside_of_le n.le_succ hout
    rcases (h.moved n).holder_eq hholder with hfree | hheld
    · exact ⟨n, hbefore, hfree, hholder⟩
    · exact ih hbefore hheld

/-- Once the calls that were polled before have come to their end, the lock is free as long as the
call waits for it. -/
theorem holder_eq_none (h : Course source moves f) (hfair : IsFair source moves i) {a : ℕ}
    {calendar : Nat} (ha : moves a = .act k calendar)
    (hover : ∀ c, (∃ m < a, ∃ calendar, moves m = .act c calendar) → (f n c).rank = 0)
    (hout : f n k = .outside) : (stateAt source moves n).holder = none := by
  by_contra hheld
  obtain ⟨holder, hholder⟩ := Option.ne_none_iff_exists'.1 hheld
  have hin : (f n holder).IsInside := ((h.inOrder n).orderly.lock holder).2 hholder
  have hne : k ≠ holder := by
    rintro rfl
    exact Stage.ne_outside_of_isInside hin hout
  obtain ⟨m, hwaits, hfree, htaken⟩ := h.exists_taken hout hholder
  -- the call did not come before the one that took the lock, so that one was polled before
  have hlater : ¬ComesBy moves k holder := fun hby ↦
    hfair.queue m holder k hfree htaken hne hby _ (by rw [h.calls_eq, hwaits]; rfl)
  have hearlier : ∃ m < a, ∃ calendar, moves m = .act holder calendar := by
    by_contra hnone
    exact hlater ⟨a, calendar, ha, fun m hm c hc ↦ hnone ⟨m, hm, c, hc⟩⟩
  exact Stage.not_isInside_of_rank_eq_zero (hover holder hearlier) hin

/-- A call that comes by the time of another one is preceded by such calls only. -/
theorem comesBy_of_polled (hk : ComesBy moves k i) {a : ℕ}
    (hfirst : ¬∃ m < a, ∃ calendar, moves m = .act k calendar) {c : Nat}
    (hc : ∃ m < a, ∃ calendar, moves m = .act c calendar) : ComesBy moves c i := by
  obtain ⟨b, calendar, hb, hbefore⟩ := hk
  obtain ⟨m, hm, calendar', hact⟩ := hc
  have hab : a ≤ b := by
    by_contra hlt
    exact hfirst ⟨b, not_le.1 hlt, calendar, hb⟩
  exact ⟨m, calendar', hact, fun m' hm' ↦ hbefore m' (by omega)⟩

/-- Once the calls that came to the lock before have ended, the call comes to its own end. -/
theorem exists_rank_eq_zero_of_first (h : Course source moves f) (hfair : IsFair source moves i)
    (hk : ComesBy moves k i) {a : ℕ} {calendar : Nat} (ha : moves a = .act k calendar)
    (hover : ∀ c, (∃ m < a, ∃ calendar, moves m = .act c calendar) → (f n c).rank = 0) :
    ∃ m, n ≤ m ∧ (f m k).rank = 0 := by
  by_cases hout : f n k = .outside
  · have hstanding : source.standing (f n k) = .running (.ask .lockToken fun _ ↦ source.look) := by
      rw [hout]
      rfl
    obtain ⟨m, hnm, calendar', hm⟩ :=
      hfair.polled k hk n _ _ ((h.calls_eq n k).trans hstanding)
    obtain ⟨m', hnm', hlt⟩ := h.exists_rank_lt_of_running hstanding hnm hm fun heq _ ↦
      h.holder_eq_none hfair ha
        (fun c hc ↦ Nat.le_zero.1 ((h.rank_le c hnm).trans (hover c hc).le)) (heq.trans hout)
    have hcame : f m' k ≠ .outside := fun hstill ↦ by
      rw [hstill, hout] at hlt
      exact lt_irrefl _ hlt
    obtain ⟨m'', hle, hzero⟩ := h.exists_rank_eq_zero hfair hk hcame
    exact ⟨m'', hnm'.trans hle, hzero⟩
  · exact h.exists_rank_eq_zero hfair hk hout

/-- **All calls that come by the time of a call come to their end**, by induction on the time at
which they are polled for the first time. -/
theorem exists_forall_rank_eq_zero (h : Course source moves f) (hfair : IsFair source moves i)
    (a : ℕ) : ∃ n, ∀ k, ComesBy moves k i → (∃ m < a, ∃ calendar, moves m = .act k calendar) →
      (f n k).rank = 0 := by
  induction a with
  | zero => exact ⟨0, fun k _ ⟨m, hm, _⟩ ↦ absurd hm m.not_lt_zero⟩
  | succ a ih =>
    obtain ⟨n, hn⟩ := ih
    by_cases hnew : ∃ k, ComesBy moves k i ∧ (∃ calendar, moves a = .act k calendar) ∧
        ¬∃ m < a, ∃ calendar, moves m = .act k calendar
    · obtain ⟨k, hk, ⟨calendar, ha⟩, hfirst⟩ := hnew
      obtain ⟨n', hnn', hzero⟩ := h.exists_rank_eq_zero_of_first hfair hk ha
        fun c hc ↦ hn c (comesBy_of_polled hk hfirst hc) hc
      refine ⟨n', fun c hc ⟨m, hm, calendar', hact⟩ ↦ ?_⟩
      rcases Nat.lt_succ_iff_lt_or_eq.1 hm with hlt | rfl
      · have hbefore := hn c hc ⟨m, hlt, calendar', hact⟩
        exact Nat.le_zero.1 (hbefore ▸ h.rank_le c hnn')
      · obtain ⟨rfl, -⟩ := Move.act.inj (hact.symm.trans ha)
        exact hzero
    · refine ⟨n, fun c hc ⟨m, hm, calendar', hact⟩ ↦ ?_⟩
      rcases Nat.lt_succ_iff_lt_or_eq.1 hm with hlt | rfl
      · exact hn c hc ⟨m, hlt, calendar', hact⟩
      · -- the call has been polled before, since no call is polled for the first time now
        by_contra hopen
        exact hnew ⟨c, hc, ⟨calendar', hact⟩, fun hbefore ↦ hopen (hn c hc hbefore)⟩

end Course

/-- **A call to which the schedule is fair comes to its end**: it is dropped, or it returns. -/
theorem IsFair.exists_over (h : IsFair source moves i) :
    ∃ n, (stateAt source moves n).calls i = .dropped ∨
      ∃ outcome, (stateAt source moves n).calls i = .running (.done outcome) := by
  obtain ⟨f, hf⟩ := exists_course source moves
  have hby : ComesBy moves i i := by
    classical
    obtain ⟨calendar, hact⟩ := Nat.find_spec h.comes
    exact ⟨_, calendar, hact, fun m hm c hc ↦ Nat.find_min h.comes hm ⟨c, hc⟩⟩
  obtain ⟨m, calendar, hm⟩ := h.comes
  obtain ⟨n, hn⟩ := hf.exists_forall_rank_eq_zero h (m + 1)
  have hzero : (f n i).rank = 0 := hn i hby ⟨m, m.lt_succ_self, calendar, hm⟩
  refine ⟨n, ?_⟩
  rw [hf.calls_eq]
  cases hstage : f n i with
  | dropped => exact .inl rfl
  | left outcome => exact .inr ⟨outcome, rfl⟩
  | _ =>
    rw [hstage] at hzero
    cases hzero

end TokenSource

end AccountDirectory
