import AccountDirectory.Proofs.Interleaving.Moves

/-!
# What a history tells

The history of a schedule tells two things.

* **Each call by itself.** `own i` reads the dialogue of one call off a history, and `traced_run`
  says that it is a dialogue of that call's program. So what is known of the dialogues of a program
  that runs alone holds of every call of every schedule.
* **What is shared.** What is cached is what was stored last, and whoever reads it or the clock
  reads just that (`remembers_run`).

With these two, a law about all schedules of calls that hold no lock needs no induction of its own.
-/

namespace AccountDirectory

namespace Program

variable {Op : Type} {Answer : Op → Type} {α : Type}

/-- **What is left of a program** after a dialogue in which everything was answered. -/
inductive Reaches : Program Op Answer α → List (Exchange Op Answer) → Program Op Answer α → Prop
  | refl (p : Program Op Answer α) : Reaches p [] p
  | ask {op : Op} {a : Answer op} {next : Answer op → Program Op Answer α} {d q}
    (h : Reaches (next a) d q) : Reaches (.ask op next) (⟨op, .answer a⟩ :: d) q

/-- One more answer. -/
theorem Reaches.snoc {p : Program Op Answer α} {d : List (Exchange Op Answer)} {op : Op}
    {next : Answer op → Program Op Answer α} (h : Reaches p d (.ask op next)) (a : Answer op) :
    Reaches p (d ++ [⟨op, .answer a⟩]) (next a) := by
  generalize hq : Program.ask op next = q at h
  induction h with
  | refl p =>
    subst hq
    exact .ask (.refl _)
  | ask _ ih => exact .ask (ih hq)

/-- A program of which a result is left has conducted the dialogue. -/
theorem Reaches.conducts {p : Program Op Answer α} {d : List (Exchange Op Answer)} {a : α}
    (h : Reaches p d (.done a)) : Conducts p d (.finished a) := by
  generalize hq : Program.done a = q at h
  induction h with
  | refl p =>
    subst hq
    exact .done a
  | ask _ ih => exact .ask _ _ (ih hq)

/-- In any case the dialogue is the beginning of one that the program conducts. -/
theorem Reaches.exists_conducts {p q : Program Op Answer α} {d : List (Exchange Op Answer)}
    (h : Reaches p d q) : ∃ d' e, d <+: d' ∧ Conducts p d' e := by
  induction h with
  | refl p =>
    induction p with
    | done a => exact ⟨[], _, List.nil_prefix, .done a⟩
    | note entry rest ih =>
      obtain ⟨d', e, hd, hc⟩ := ih
      exact ⟨d', e, hd, .note entry hc⟩
    | ask op next => exact ⟨_, _, List.nil_prefix, .broken op .interrupted⟩
  | @ask op a next d q _ ih =>
    obtain ⟨d', e, hd, hc⟩ := ih
    exact ⟨⟨op, .answer a⟩ :: d', e, List.cons_prefix_cons.2 ⟨rfl, hd⟩, .ask op a hc⟩

end Program

namespace Interleaving

open Program (Reaches)

/-! ### The dialogue of one call -/

/-- The exchange that an act completes. -/
def Act.exchange? : Act → Option Procedure.Exchange
  | .did op a => some ⟨op, .answer a⟩
  | .got request answer => some ⟨.exchange request, .answer answer⟩
  | .sent _ => none
  | .dropped => none

/-- The exchange that an event completes for a call. -/
def Event.exchangeOf (e : Event) (i : Nat) : Option Procedure.Exchange :=
  if e.caller = i then e.act.exchange? else none

/-- **The dialogue of one call**, read off a history. -/
def own (i : Nat) (history : List Event) : List Procedure.Exchange :=
  (history.filterMap (·.exchangeOf i)).reverse

theorem own_cons (i : Nat) (e : Event) (history : List Event) :
    own i (e :: history) = own i history ++ (e.exchangeOf i).toList := by
  rw [own, List.filterMap_cons, own]
  cases e.exchangeOf i with
  | none => exact (List.append_nil _).symm
  | some x => exact List.reverse_cons

theorem own_append (i : Nat) (later earlier : List Event) :
    own i (later ++ earlier) = own i earlier ++ own i later := by
  rw [own, List.filterMap_append, List.reverse_append, own, own]

/-- An exchange of a dialogue was completed by an event, those before it earlier and those after it
later. -/
theorem exists_of_own_eq_append_cons {i : Nat} {history : List Event}
    {d d' : List Procedure.Exchange} {x : Procedure.Exchange}
    (h : own i history = d ++ x :: d') :
    ∃ later e earlier, history = later ++ e :: earlier ∧ e.caller = i ∧
      e.act.exchange? = some x ∧ own i earlier = d ∧ own i later = d' := by
  induction history generalizing d' with
  | nil => simp [own] at h
  | cons e history ih =>
    rw [own_cons] at h
    cases he : e.exchangeOf i with
    | none =>
      rw [he, Option.toList_none, List.append_nil] at h
      obtain ⟨later, e', earlier, rfl, hi, hx, hd, hd'⟩ := ih h
      refine ⟨e :: later, e', earlier, rfl, hi, hx, hd, ?_⟩
      rw [own_cons, he, Option.toList_none, List.append_nil, hd']
    | some y =>
      rw [he, Option.toList_some] at h
      rcases List.eq_nil_or_concat d' with rfl | ⟨d', y', rfl⟩
      · obtain ⟨hd, hx⟩ := List.append_inj' h rfl
        obtain rfl := List.singleton_inj.1 hx
        rw [Event.exchangeOf] at he
        split_ifs at he with hi
        exact ⟨[], e, history, rfl, hi, he, hd, rfl⟩
      · rw [List.concat_eq_append, ← List.cons_append, ← List.append_assoc] at h
        obtain ⟨hrest, hy⟩ := List.append_inj' h rfl
        obtain ⟨later, e', earlier, rfl, hi, hx, hd, hd'⟩ := ih hrest
        refine ⟨e :: later, e', earlier, rfl, hi, hx, hd, ?_⟩
        rw [own_cons, he, Option.toList_some, hd', hy, List.concat_eq_append]

/-- The last exchange of a dialogue was completed by an event, and those before it earlier. -/
theorem exists_of_own_eq_concat {i : Nat} {history : List Event} {d : List Procedure.Exchange}
    {x : Procedure.Exchange} (h : own i history = d ++ [x]) :
    ∃ later e earlier, history = later ++ e :: earlier ∧ e.caller = i ∧
      e.act.exchange? = some x ∧ own i earlier = d := by
  obtain ⟨later, e, earlier, hsplit, hi, hx, hd, -⟩ := exists_of_own_eq_append_cons h
  exact ⟨later, e, earlier, hsplit, hi, hx, hd⟩

theorem mem_own_iff {i : Nat} {history : List Event} {x : Procedure.Exchange} :
    x ∈ own i history ↔ ∃ e ∈ history, e.caller = i ∧ e.act.exchange? = some x := by
  rw [own, List.mem_reverse, List.mem_filterMap]
  refine exists_congr fun e ↦ and_congr_right fun _ ↦ ?_
  rw [Event.exchangeOf]
  split_ifs with h
  · simp [h]
  · simp [h]

/-- What a call has still to do, unless it was dropped. -/
def Standing.rest? {α : Type} : Standing α → Option (Procedure α)
  | .running rest => some rest
  | .waiting request next => some (.ask (.exchange request) next)
  | .dropped => none

variable {α : Type} {calls : Nat → Procedure α} {s s' : State α}

/-- **Each call has held its own dialogue** with the program that it is the call of, and is left
with what is left of that program. -/
def Traced (calls : Nat → Procedure α) (s : State α) : Prop :=
  ∀ i, ∃ rest, Reaches (calls i).silent (own i s.history) rest ∧ ∀ q ∈ (s.calls i).rest?, q = rest

/-- An act of one call leaves the others as they are. -/
theorem Traced.put {i : Nat} {standing : Standing α} {act : Act} {rest : Procedure α}
    (h : Traced calls s) (hcalls : s'.calls = s.calls) (hhistory : s'.history = s.history)
    (hrest : Reaches (calls i).silent (own i s.history ++ act.exchange?.toList) rest)
    (hstanding : ∀ q ∈ standing.rest?, q = rest) : Traced calls (s'.put i standing act) := by
  intro k
  show ∃ rest, Reaches _ (own k (⟨s'.clock, i, act⟩ :: s'.history)) rest ∧
    ∀ q ∈ (Function.update s'.calls i standing k).rest?, q = rest
  rw [own_cons, hhistory, hcalls, Event.exchangeOf]
  by_cases hk : i = k
  · subst hk
    rw [if_pos rfl, Function.update_self]
    exact ⟨rest, hrest, hstanding⟩
  · rw [if_neg hk, Function.update_of_ne (Ne.symm hk)]
    simpa using h k

theorem State.Performs.calls_eq {i : Nat} {op : Effect} {a : op.Answer} (h : s.Performs i op a s') :
    s'.calls = s.calls := by
  cases h <;> rfl

theorem State.Performs.history_eq {i : Nat} {op : Effect} {a : op.Answer}
    (h : s.Performs i op a s') : s'.history = s.history := by
  cases h <;> rfl

/-- A call that is running stands where its program has got to. -/
theorem Traced.reaches {i : Nat} {rest : Procedure α} (h : Traced calls s)
    (hi : (s.calls i).rest? = some rest) : Reaches (calls i).silent (own i s.history) rest := by
  obtain ⟨rest', hr, hq⟩ := h i
  rwa [hq rest hi]

theorem Traced.change (h : Traced calls s) (hc : s.Change s') : Traced calls s' := by
  cases hc with
  | idle => exact h
  | passed => exact h
  | @did i op next a s' hi hp =>
    have hr : Reaches (calls i).silent (own i s.history) (.ask op next) :=
      h.reaches (by rw [hi]; rfl)
    exact h.put hp.calls_eq hp.history_eq (hr.snoc a) (by simp [Standing.rest?])
  | @sent i request next hi =>
    have hr : Reaches (calls i).silent (own i s.history) (.ask (.exchange request) next) :=
      h.reaches (by rw [hi]; rfl)
    exact h.put rfl rfl (by simpa [Act.exchange?] using hr) (by simp [Standing.rest?])
  | @got i request next hi answer =>
    have hr : Reaches (calls i).silent (own i s.history) (.ask (.exchange request) next) :=
      h.reaches (by rw [hi]; rfl)
    exact h.put rfl rfl (hr.snoc answer) (by simp [Standing.rest?])
  | @dropped i hi =>
    obtain ⟨rest, hr, -⟩ := h i
    exact h.put rfl rfl (by simpa [Act.exchange?] using hr) (by simp [Standing.rest?])

/-- **After every schedule each call has held its own dialogue.** -/
theorem traced_run (calls : Nat → Procedure α) (moves : List Move) :
    Traced calls (State.run calls moves) := by
  refine State.run_induction (fun i ↦ ⟨_, .refl _, ?_⟩) (fun s s' h hc ↦ h.change hc) moves
  simp [State.initial, Standing.rest?]

/-- A call that has finished has conducted its dialogue. -/
theorem Traced.conducts {i : Nat} {a : α} (h : Traced calls s)
    (hi : s.calls i = .running (.done a)) :
    Program.Conducts (calls i) (own i s.history) (.finished a) := by
  have hr : Reaches (calls i).silent (own i s.history) (.done a) := h.reaches (by rw [hi]; rfl)
  exact Program.conducts_silent_iff.1 hr.conducts

/-- Any other call has begun a dialogue of its program. -/
theorem Traced.exists_conducts (h : Traced calls s) (i : Nat) :
    ∃ d e, own i s.history <+: d ∧ Program.Conducts (calls i) d e := by
  obtain ⟨rest, hr, -⟩ := h i
  obtain ⟨d, e, hd, hc⟩ := hr.exists_conducts
  exact ⟨d, e, hd, Program.conducts_silent_iff.1 hc⟩

/-! ### What is shared -/

/-- The token that an act stores. -/
def Act.storedToken? : Act → Option CachedToken
  | .did (.storeToken entry) _ => some entry
  | _ => none

/-- The key set that an act stores. -/
def Act.storedKeys? : Act → Option CachedKeys
  | .did (.storeKeys entry) _ => some entry
  | _ => none

theorem exchange?_of_storedToken? {act : Act} {entry : CachedToken}
    (h : act.storedToken? = some entry) :
    act.exchange? = some ⟨.storeToken entry, .answer ()⟩ := by
  rcases act with ⟨op, a⟩ | _ | _ | -
  · cases op with
    | storeToken entry' =>
      obtain rfl := Option.some.inj h
      rfl
    | _ => cases h
  · cases h
  · cases h
  · cases h

theorem exchange?_of_storedKeys? {act : Act} {entry : CachedKeys}
    (h : act.storedKeys? = some entry) : act.exchange? = some ⟨.storeKeys entry, .answer ()⟩ := by
  rcases act with ⟨op, a⟩ | _ | _ | -
  · cases op with
    | storeKeys entry' =>
      obtain rfl := Option.some.inj h
      rfl
    | _ => cases h
  · cases h
  · cases h
  · cases h

/-- The token that was stored last. -/
def lastToken (history : List Event) : Option CachedToken :=
  history.findSome? (·.act.storedToken?)

/-- The key set that was stored last. -/
def lastKeys (history : List Event) : Option CachedKeys :=
  history.findSome? (·.act.storedKeys?)

/-- **What was read fits what happened before**: the clock at that time, and what was stored last.
An answer to a request is got and not read. -/
def Event.Fits (e : Event) (before : List Event) : Prop :=
  match e.act with
  | .did .steadyClock now => now = e.time
  | .did .cachedToken found => found = lastToken before
  | .did .cachedKeys found => found = lastKeys before
  | .did (.exchange _) _ => False
  | _ => True

/-- **The history tells what is shared.** -/
structure Remembers (s : State α) : Prop where
  token : s.token = lastToken s.history
  keys : s.keys = lastKeys s.history
  /-- Time does not go back. -/
  past : ∀ e ∈ s.history, e.time ≤ s.clock
  ordered : s.history.Pairwise fun later earlier ↦ earlier.time ≤ later.time
  fits : ∀ x e y, s.history = x ++ e :: y → e.Fits y

/-- A law about each event and those before it holds of a longer history if it holds of the event
that is new. -/
theorem forall_split_cons {p : Event → List Event → Prop} {e : Event} {history : List Event}
    (he : p e history) (h : ∀ x e' y, history = x ++ e' :: y → p e' y) :
    ∀ x e' y, e :: history = x ++ e' :: y → p e' y := by
  intro x e' y hxy
  rcases x with - | ⟨_, x⟩
  · obtain ⟨rfl, rfl⟩ := List.cons.inj hxy
    exact he
  · obtain ⟨rfl, htail⟩ := List.cons.inj hxy
    exact h x e' y htail

/-- What was completed at once was done. -/
theorem Act.eq_did_of_exchange? {act : Act} {op : Effect} {a : op.Answer}
    (h : act.exchange? = some ⟨op, .answer a⟩) (hop : ∀ request, op ≠ .exchange request) :
    act = .did op a := by
  rcases act with ⟨op', a'⟩ | request | ⟨request, answer⟩ | -
  · obtain ⟨rfl, hr⟩ := Program.Exchange.mk.inj (Option.some.inj h)
    obtain rfl := Program.Reply.answer.inj (eq_of_heq hr)
    rfl
  · cases h
  · exact absurd (Program.Exchange.mk.inj (Option.some.inj h)).1.symm (hop request)
  · cases h

/-- An answer to a request was got. -/
theorem Event.Fits.eq_got {e : Event} {before : List Event} (h : e.Fits before)
    {request : Http.Request} {answer : Except Http.TransportFailure Http.Response}
    (hx : e.act.exchange? = some ⟨.exchange request, .answer answer⟩) :
    e.act = .got request answer := by
  rw [Event.Fits] at h
  rcases hact : e.act with ⟨op, a⟩ | _ | ⟨request', answer'⟩ | -
  · rw [hact] at hx h
    obtain ⟨rfl, -⟩ := Program.Exchange.mk.inj (Option.some.inj hx)
    exact h.elim
  · rw [hact] at hx
    cases hx
  · rw [hact] at hx
    obtain ⟨hr, ha⟩ := Program.Exchange.mk.inj (Option.some.inj hx)
    obtain rfl := Effect.exchange.inj hr
    obtain rfl := Program.Reply.answer.inj (eq_of_heq ha)
    rfl
  · rw [hact] at hx
    cases hx

/-- What was before is not later. -/
theorem Remembers.time_le {later earlier : List Event} {e e' : Event} (h : Remembers s)
    (hs : s.history = later ++ e :: earlier) (he' : e' ∈ earlier) : e'.time ≤ e.time := by
  have hordered := h.ordered
  rw [hs] at hordered
  exact (List.pairwise_cons.1 (List.pairwise_append.1 hordered).2.1).1 e' he'

/-- What happened earlier is not later. -/
theorem Remembers.time_le_of_mem {later earlier : List Event} {e e' : Event} (h : Remembers s)
    (hs : s.history = later ++ earlier) (he : e ∈ later) (he' : e' ∈ earlier) :
    e'.time ≤ e.time := by
  have hordered := h.ordered
  rw [hs] at hordered
  exact (List.pairwise_append.1 hordered).2.2 e he e' he'

/-- The clock is read when it is seen. -/
theorem Remembers.eq_time_of_read {e : Event} {now : Nat} (h : Remembers s) (he : e ∈ s.history)
    (hread : e.act = .did .steadyClock now) : now = e.time := by
  obtain ⟨later, earlier, hs⟩ := List.append_of_mem he
  have hfits := h.fits later e earlier hs
  rwa [Event.Fits, hread] at hfits

/-- The clock does not go back behind what a call has read. -/
theorem Remembers.le_time_of_own {i now : Nat} {later earlier : List Event} {e : Event}
    (h : Remembers s) (hs : s.history = later ++ e :: earlier)
    (hx : ⟨.steadyClock, .answer now⟩ ∈ own i earlier) : now ≤ e.time := by
  obtain ⟨reading, hreading, -, hact⟩ := mem_own_iff.1 hx
  have hread : reading.act = .did .steadyClock now :=
    Act.eq_did_of_exchange? hact fun _ h ↦ by cases h
  have hmem : reading ∈ s.history := by
    rw [hs]
    exact List.mem_append_right _ (List.mem_cons_of_mem _ hreading)
  rw [h.eq_time_of_read hmem hread]
  exact h.time_le hs hreading

/-- An act that fits is remembered. -/
theorem Remembers.put {i : Nat} {standing : Standing α} {act : Act} (h : Remembers s)
    (hclock : s'.clock = s.clock) (hhistory : s'.history = s.history)
    (htoken : s'.token = act.storedToken?.or s.token) (hkeys : s'.keys = act.storedKeys?.or s.keys)
    (hfits : Event.Fits ⟨s.clock, i, act⟩ s.history) : Remembers (s'.put i standing act) := by
  have hput : (s'.put i standing act).history = ⟨s.clock, i, act⟩ :: s.history := by
    rw [← hclock, ← hhistory]
    rfl
  refine ⟨?_, ?_, ?_, ?_, ?_⟩
  · show s'.token = _
    rw [hput, htoken, lastToken, List.findSome?_cons, h.token]
    cases act.storedToken? <;> rfl
  · show s'.keys = _
    rw [hput, hkeys, lastKeys, List.findSome?_cons, h.keys]
    cases act.storedKeys? <;> rfl
  · show ∀ e ∈ (s'.put i standing act).history, e.time ≤ s'.clock
    rw [hput, hclock]
    exact List.forall_mem_cons.2 ⟨Nat.le_refl _, h.past⟩
  · rw [hput]
    exact List.pairwise_cons.2 ⟨h.past, h.ordered⟩
  · rw [hput]
    exact forall_split_cons hfits h.fits

theorem Remembers.change (h : Remembers s) (hc : s.Change s') : Remembers s' := by
  cases hc with
  | idle => exact h
  | passed duration =>
    refine ⟨h.token, h.keys, fun e he ↦ ?_, h.ordered, h.fits⟩
    exact (h.past e he).trans (Nat.le_add_right _ _)
  | did hi hp =>
    cases hp with
    | cachedToken => exact h.put rfl rfl rfl rfl h.token
    | cachedKeys => exact h.put rfl rfl rfl rfl h.keys
    | steadyClock => exact h.put rfl rfl rfl rfl rfl
    | _ => exact h.put rfl rfl rfl rfl trivial
  | sent | got => exact h.put rfl rfl rfl rfl trivial
  | dropped => exact h.put rfl rfl rfl rfl trivial

/-- **After every schedule the history tells what is shared.** -/
theorem remembers_run (calls : Nat → Procedure α) (moves : List Move) :
    Remembers (State.run calls moves) := by
  refine State.run_induction ?_ (fun s s' h hc ↦ h.change hc) moves
  refine ⟨rfl, rfl, fun e he ↦ absurd he List.not_mem_nil, List.Pairwise.nil, fun x e y h ↦ ?_⟩
  exact absurd h (by simp [State.initial])

end Interleaving

end AccountDirectory
