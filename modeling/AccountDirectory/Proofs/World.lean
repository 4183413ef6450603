import AccountDirectory.Effect

/-!
# A world for the adapters

The adapters' operations are answered from a `World`: two clocks, the two caches and a server. What
is stored is what is read later, the steady clock never goes back, and the server may answer
anything, or nothing.

`Ends` says that the run of a program finishes and in which state, and `Yields` that a step which may
fail does not. There is one rule for each way of making a step, so a composed step is opened by
rewriting with these rules.

**Time.** The steady clock may go on by any amount before each of its readings. So nothing here
assumes that a procedure takes no time.
-/

namespace AccountDirectory

namespace Program

variable {Op : Type} {Answer : Op → Type} {α β σ : Type}

/-- **The run finishes** with a result, and leaves the state `t`. -/
def Ends (respond : σ → (op : Op) → Reply (Answer op) × σ) (p : Program Op Answer α) (s : σ)
    (a : α) (t : σ) : Prop :=
  (p.run respond s).ending = .finished a ∧ (p.run respond s).state = t

variable {respond : σ → (op : Op) → Reply (Answer op) × σ} {s t : σ}

theorem ends_done_iff {a b : α} :
    Ends respond (.done a : Program Op Answer α) s b t ↔ b = a ∧ t = s := by
  constructor
  · rintro ⟨h, rfl⟩
    exact ⟨(Ending.finished.inj h).symm, rfl⟩
  · rintro ⟨rfl, rfl⟩
    exact ⟨rfl, rfl⟩

theorem ends_ask_iff {op : Op} {next : Answer op → Program Op Answer α} {b : α} :
    Ends respond (.ask op next) s b t ↔
      ∃ a u, respond s op = (.answer a, u) ∧ Ends respond (next a) u b t := by
  rw [Ends, run]
  -- without an answer the run does not finish
  rcases respond s op with ⟨a | _ | _, u⟩
  · constructor
    · exact fun h ↦ ⟨a, u, rfl, h⟩
    · rintro ⟨a, u, he, h⟩
      obtain ⟨ha, rfl⟩ := Prod.mk.inj he
      obtain rfl := Reply.answer.inj ha
      exact h
  · constructor
    · rintro ⟨⟨⟩, -⟩
    · rintro ⟨_, _, ⟨⟩, -⟩
  · constructor
    · rintro ⟨⟨⟩, -⟩
    · rintro ⟨_, _, ⟨⟩, -⟩

/-- A run that is known to finish has this result only. -/
theorem Ends.iff {p : Program Op Answer α} {a b : α} {u : σ} (h : Ends respond p s a t) :
    Ends respond p s b u ↔ b = a ∧ u = t := by
  constructor
  · rintro ⟨hb, rfl⟩
    exact ⟨Ending.finished.inj (hb.symm.trans h.1), h.2⟩
  · rintro ⟨rfl, rfl⟩
    exact h

/-- The run of one program after another finishes if both runs do. -/
theorem ends_bind_iff {p : Program Op Answer α} {f : α → Program Op Answer β} {b : β} :
    Ends respond (p >>= f) s b t ↔ ∃ a u, Ends respond p s a u ∧ Ends respond (f a) u b t := by
  show Ends respond (p.bind f) s b t ↔ _
  induction p generalizing s with
  | done a =>
    simp only [ends_done_iff]
    constructor
    · exact fun h ↦ ⟨a, s, ⟨rfl, rfl⟩, h⟩
    · rintro ⟨_, _, ⟨rfl, rfl⟩, h⟩
      exact h
  | note entry rest ih => exact ih
  | ask op next ih =>
    rw [bind, ends_ask_iff]
    simp only [ends_ask_iff, ih]
    constructor
    · rintro ⟨x, u, hx, a, u', ha, hf⟩
      exact ⟨a, u', ⟨x, u, hx, ha⟩, hf⟩
    · rintro ⟨a, u', ⟨x, u, hx, ha⟩, hf⟩
      exact ⟨x, u, hx, a, u', ha, hf⟩

end Program

/-! ### The world -/

/-- What the adapters' operations are answered from. -/
structure World where
  /-- The steady clock at its last reading. -/
  clock : Nat
  /-- How far the steady clock goes on before its next readings; after those it stands still. -/
  delays : List Nat
  /-- The calendar. -/
  calendar : Nat
  /-- The cached service token. -/
  token : Option CachedToken
  /-- The cached key set. -/
  keys : Option CachedKeys
  /-- What becomes of a request. -/
  server : Http.Request → Program.Reply (Except Http.TransportFailure Http.Response)

namespace World

/-- The world after a reading of the steady clock. -/
def tick (w : World) : World :=
  { w with clock := w.clock + w.delays.headD 0, delays := w.delays.tail }

/-- Answers an operation. The lock on the service token is free: one procedure runs at a time. -/
def respond (w : World) : (op : Effect) → Program.Reply op.Answer × World
  | .steadyClock => (.answer w.tick.clock, w.tick)
  | .calendar => (.answer w.calendar, w)
  | .exchange request => (w.server request, w)
  | .lockToken => (.answer (), w)
  | .unlockToken => (.answer (), w)
  | .cachedToken => (.answer w.token, w)
  | .storeToken entry => (.answer (), { w with token := some entry })
  | .cachedKeys => (.answer w.keys, w)
  | .storeKeys entry => (.answer (), { w with keys := some entry })

theorem clock_le_tick (w : World) : w.clock ≤ w.tick.clock := Nat.le_add_right _ _

/-- One operation. -/
theorem ends_call_iff {op : Effect} {w w' : World} {a : op.Answer} :
    Program.Ends respond (Procedure.call op) w a w' ↔ w.respond op = (.answer a, w') := by
  show Program.Ends respond (.ask op .done) w a w' ↔ _
  simp only [Program.ends_ask_iff, Program.ends_done_iff]
  constructor
  · rintro ⟨_, _, h, rfl, rfl⟩
    exact h
  · exact fun h ↦ ⟨_, _, h, rfl, rfl⟩

/-! ### Steps that may fail -/

variable {ε α β : Type} {w w' : World} {b : β}

/-- **The step does not fail** but yields a result, in the world `w'`. -/
def Yields (p : ExceptT ε (Program Effect Effect.Answer) α) (w : World) (a : α) (w' : World) :
    Prop :=
  Program.Ends respond p.run w (.ok a) w'

theorem yields_pure_iff {a : β} :
    Yields (pure a : ExceptT ε (Program Effect Effect.Answer) β) w b w' ↔ b = a ∧ w' = w := by
  show Program.Ends respond (.done (.ok a : Except ε β)) w (.ok b) w' ↔ _
  rw [Program.ends_done_iff, Except.ok.injEq]

theorem not_yields_throw {failure : ε} :
    ¬Yields (throw failure : ExceptT ε (Program Effect Effect.Answer) β) w b w' :=
  fun h ↦ nomatch h.1

theorem yields_done_iff {x : Except ε β} :
    Yields (ExceptT.mk (.done x) : ExceptT ε (Program Effect Effect.Answer) β) w b w' ↔
      x = Except.ok b ∧ w' = w := by
  show Program.Ends respond (.done x) w (.ok b) w' ↔ _
  rw [Program.ends_done_iff, eq_comm]

theorem yields_bind_iff {p : ExceptT ε (Program Effect Effect.Answer) α}
    {f : α → ExceptT ε (Program Effect Effect.Answer) β} :
    Yields (p >>= f) w b w' ↔ ∃ a u, Yields p w a u ∧ Yields (f a) u b w' := by
  show Program.Ends respond (p.run >>= ExceptT.bindCont f) w (.ok b) w' ↔ _
  rw [Program.ends_bind_iff]
  constructor
  · rintro ⟨failure | a, u, hp, hf⟩
    · exact nomatch hf.1
    · exact ⟨a, u, hp, hf⟩
  · rintro ⟨a, u, hp, hf⟩
    exact ⟨.ok a, u, hp, hf⟩

theorem yields_lift_iff {p : Procedure β} :
    Yields (ExceptT.lift p : ExceptT ε (Program Effect Effect.Answer) β) w b w' ↔
      Program.Ends respond p w b w' := by
  show Program.Ends respond (Except.ok <$> p) w (.ok b) w' ↔ _
  rw [map_eq_pure_bind, Program.ends_bind_iff]
  constructor
  · rintro ⟨a, u, hp, hf⟩
    obtain ⟨hb, rfl⟩ := Program.ends_done_iff.1 hf
    obtain rfl := Except.ok.inj hb
    exact hp
  · exact fun h ↦ ⟨b, w', h, Program.ends_done_iff.2 ⟨rfl, rfl⟩⟩

/-- A check whose outcome is known lets the rest go on, or fails. -/
theorem yields_done_bind_iff {x : Except ε α}
    {f : α → ExceptT ε (Program Effect Effect.Answer) β} :
    Yields (ExceptT.mk (.done x) >>= f) w b w' ↔ ∃ a, x = .ok a ∧ Yields (f a) w b w' := by
  rw [yields_bind_iff]
  constructor
  · rintro ⟨a, _, hp, hf⟩
    obtain ⟨hx, rfl⟩ := yields_done_iff.1 hp
    exact ⟨a, hx, hf⟩
  · rintro ⟨a, hx, hf⟩
    exact ⟨a, w, yields_done_iff.2 ⟨hx, rfl⟩, hf⟩

/-- The calendar is read without a change. -/
theorem yields_calendar_bind_iff {f : Nat → ExceptT ε (Program Effect Effect.Answer) β} :
    Yields (ExceptT.lift (Procedure.call .calendar) >>= f) w b w' ↔
      Yields (f w.calendar) w b w' :=
  Iff.rfl

/-- A note yields at once. -/
theorem yields_log_bind_iff {entry : LogEntry}
    {f : Unit → ExceptT ε (Program Effect Effect.Answer) β} :
    Yields (ExceptT.lift (Procedure.log entry) >>= f) w b w' ↔ Yields (f ()) w b w' :=
  Iff.rfl

end World

end AccountDirectory
