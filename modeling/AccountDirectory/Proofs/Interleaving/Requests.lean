import AccountDirectory.Proofs.Interleaving.History

/-!
# Where requests are sent

A request stands in a history when it is sent, and in a dialogue only when it is answered. So what
made a call send it is read off the dialogue that the call had held until then: `asks_of_sent` says
that its program **asks** for the request after that dialogue, in every schedule.

`Asks` composes as dialogues do (`asks_bind_iff`): a program that is put together asks where one of
its parts does, and every part before that one has finished.
-/

namespace AccountDirectory

namespace Program

variable {Op : Type} {Answer : Op → Type} {α β : Type}

/-! ### Asking -/

/-- **The program asks for an operation** after a dialogue: with that operation broken off, it is a
dialogue of the program. -/
def Asks (p : Program Op Answer α) (d : List (Exchange Op Answer)) (op : Op) : Prop :=
  Conducts p (d ++ [⟨op, .interrupted⟩]) .interrupted

variable {d : List (Exchange Op Answer)} {op : Op}

/-- A program that has not finished has said something. -/
theorem Conducts.ne_nil {p : Program Op Answer α} (h : Conducts p d .interrupted) : d ≠ [] := by
  generalize he : (Ending.interrupted : Ending α) = e at h
  induction h with
  | done a => cases he
  | note _ _ ih => exact ih he
  | ask => exact List.cons_ne_nil _ _
  | broken => exact List.cons_ne_nil _ _

theorem not_asks_done {a : α} : ¬Asks (.done a : Program Op Answer α) d op := by
  intro h
  cases (conducts_done_iff.1 h).2

theorem asks_note_iff {entry : LogEntry} {p : Program Op Answer α} :
    Asks (.note entry p) d op ↔ Asks p d op :=
  conducts_note_iff

/-- A program asks for its first operation at once, and for others after an answer to it. -/
theorem asks_ask_iff {op' : Op} {next : Answer op' → Program Op Answer α} :
    Asks (.ask op' next) d op ↔
      (d = [] ∧ op = op') ∨ ∃ a d', d = ⟨op', .answer a⟩ :: d' ∧ Asks (next a) d' op := by
  rw [Asks, conducts_ask_iff]
  rcases d with - | ⟨x, d⟩
  · constructor
    · rintro (⟨r, hd, -⟩ | ⟨a, d', hd, -⟩)
      · exact .inl ⟨rfl, (Exchange.mk.inj (List.singleton_inj.1 hd)).1⟩
      · cases (List.cons.inj hd).1
    · rintro (⟨-, rfl⟩ | ⟨a, d', hd, -⟩)
      · exact .inl ⟨_, rfl, .interrupted⟩
      · cases hd
  · rw [List.cons_append]
    constructor
    · rintro (⟨r, hd, -⟩ | ⟨a, d', hd, h⟩)
      · exact absurd (List.cons.inj hd).2 (List.append_ne_nil_of_right_ne_nil _ (by simp))
      · obtain ⟨rfl, rfl⟩ := List.cons.inj hd
        exact .inr ⟨a, d, rfl, h⟩
    · rintro (⟨hd, -⟩ | ⟨a, d', hd, h⟩)
      · cases hd
      · obtain ⟨rfl, rfl⟩ := List.cons.inj hd
        exact .inr ⟨a, _, rfl, h⟩

/-- **One program after another**: the first one asks, or the second one after the first has
finished. -/
theorem asks_bind_iff {p : Program Op Answer α} {f : α → Program Op Answer β} :
    Asks (p >>= f) d op ↔
      Asks p d op ∨ ∃ a d₁ d₂, d = d₁ ++ d₂ ∧ Conducts p d₁ (.finished a) ∧ Asks (f a) d₂ op := by
  rw [Asks, conducts_bind_iff]
  constructor
  · rintro (⟨e, h, hs⟩ | ⟨a, d₁, d₂, hd, h₁, h₂⟩)
    · cases hs
      exact .inl h
    · -- the operation that is asked for is the last one of the second dialogue
      rcases List.eq_nil_or_concat d₂ with rfl | ⟨d₂, x, rfl⟩
      · exact absurd rfl h₂.ne_nil
      rw [List.concat_eq_append, ← List.append_assoc] at hd
      obtain ⟨rfl, hx⟩ := List.append_inj' hd rfl
      obtain rfl := List.singleton_inj.1 hx
      rw [List.concat_eq_append] at h₂
      exact .inr ⟨a, d₁, d₂, rfl, h₁, h₂⟩
  · rintro (h | ⟨a, d₁, d₂, rfl, h₁, h₂⟩)
    · exact .inl ⟨_, h, .interrupted⟩
    · have hlast : Conducts (f a) (d₂ ++ [⟨op, .interrupted⟩]) .interrupted := h₂
      exact .inr ⟨a, d₁, _, List.append_assoc _ _ _, h₁, hlast⟩

/-- **One step after another**, of steps that may fail. -/
theorem asks_bindT_iff {ε : Type} {x : ExceptT ε (Program Op Answer) α}
    {f : α → ExceptT ε (Program Op Answer) β} :
    Asks (x >>= f).run d op ↔ Asks x.run d op ∨ ∃ a d₁ d₂, d = d₁ ++ d₂ ∧
      Conducts x.run d₁ (.finished (.ok a)) ∧ Asks (f a).run d₂ op := by
  show Asks (x.run >>= ExceptT.bindCont f) d op ↔ _
  rw [asks_bind_iff]
  refine or_congr_right ⟨?_, ?_⟩
  · rintro ⟨failure | a, d₁, d₂, rfl, hx, hf⟩
    · exact absurd hf not_asks_done
    · exact ⟨a, d₁, d₂, rfl, hx, hf⟩
  · rintro ⟨a, d₁, d₂, rfl, hx, hf⟩
    exact ⟨.ok a, d₁, d₂, rfl, hx, hf⟩

/-- After a check that passes, the rest asks. -/
theorem asks_check_bind_iff {ε : Type} {x : Except ε α}
    {f : α → ExceptT ε (Program Op Answer) β} :
    Asks (ExceptT.mk (.done x) >>= f).run d op ↔ ∃ a, x = .ok a ∧ Asks (f a).run d op := by
  rw [asks_bindT_iff]
  constructor
  · rintro (h | ⟨a, d₁, d₂, rfl, hx, hf⟩)
    · exact absurd h not_asks_done
    · obtain ⟨rfl, he⟩ := conducts_done_iff.1 hx
      exact ⟨a, (Ending.finished.inj he).symm, hf⟩
  · rintro ⟨a, rfl, hf⟩
    exact .inr ⟨a, [], d, rfl, .done _, hf⟩

/-- What is asked for is allowed. -/
theorem Asks.allowed {p : Program Op Answer α} {allowed : Op → Prop} {post : α → Prop}
    (h : Asks p d op) (hp : p.Obeys allowed post) : allowed op :=
  (Conducts.obeys h hp).1 ⟨op, .interrupted⟩ (List.mem_append_right _ List.mem_cons_self)

/-- A program asks for what it has reached. -/
theorem Reaches.asks {p : Program Op Answer α} {next : Answer op → Program Op Answer α}
    (h : Reaches p d (.ask op next)) : Asks p d op := by
  generalize hq : Program.ask op next = q at h
  induction h with
  | refl p =>
    subst hq
    exact asks_ask_iff.2 (.inl ⟨rfl, rfl⟩)
  | ask _ ih => exact asks_ask_iff.2 (.inr ⟨_, _, rfl, ih hq⟩)

end Program

namespace Interleaving

open Program (Asks)

variable {α : Type} {calls : Nat → Procedure α} {s s' : State α}

/-! ### Sent requests -/

/-- **Requests are sent where they are asked for**, after the dialogue that the caller has held. -/
def SendsAsked (calls : Nat → Procedure α) (history : List Event) : Prop :=
  ∀ later e earlier, history = later ++ e :: earlier → ∀ request, e.act = .sent request →
    Asks (calls e.caller) (own e.caller earlier) (.exchange request)

/-- An act that sends nothing adds no request. -/
theorem SendsAsked.cons {e : Event} {history : List Event} (h : SendsAsked calls history)
    (he : ∀ request, e.act = .sent request →
      Asks (calls e.caller) (own e.caller history) (.exchange request)) :
    SendsAsked calls (e :: history) :=
  forall_split_cons he h

theorem SendsAsked.change (ht : Traced calls s) (h : SendsAsked calls s.history)
    (hc : s.Change s') : SendsAsked calls s'.history := by
  cases hc with
  | idle => exact h
  | passed => exact h
  | @did i op next a s' hi hp =>
    show SendsAsked calls (⟨s'.clock, i, .did op a⟩ :: s'.history)
    rw [hp.history_eq]
    exact h.cons fun _ hact ↦ by cases hact
  | @sent i request next hi =>
    refine h.cons ?_
    rintro request' hact
    obtain rfl := Act.sent.inj hact
    -- the caller stands right before the request
    have hrest : (s.calls i).rest? = some (.ask (.exchange request) next) := by
      rw [hi]
      rfl
    have hr := ht.reaches hrest
    exact Program.conducts_silent_iff.1 hr.asks
  | got | dropped => exact h.cons fun _ hact ↦ by cases hact

/-- **In every schedule, requests are sent where they are asked for.** -/
theorem asks_of_sent (calls : Nat → Procedure α) (moves : List Move) :
    SendsAsked calls (State.run calls moves).history := by
  have hboth : Traced calls (State.run calls moves) ∧
      SendsAsked calls (State.run calls moves).history := by
    refine State.run_induction (p := fun s ↦ Traced calls s ∧ SendsAsked calls s.history)
      ⟨traced_run calls [], fun _ _ _ h ↦ ?_⟩ (fun s s' h hc ↦ ?_) moves
    · exact absurd h (by simp [State.initial])
    · exact ⟨h.1.change hc, h.2.change h.1 hc⟩
  exact hboth.2

end Interleaving

end AccountDirectory
