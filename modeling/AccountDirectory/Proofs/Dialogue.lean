import AccountDirectory.Program

/-!
# Dialogues

A run of a program says which operations were asked for (`Run.asked`), not what came back. The
**dialogue** of a run keeps both: each operation with the reply it got. A law such as "only after
the verifier accepted" is a statement about a dialogue.

`Conducts p d e` says that `p` can hold the dialogue `d` and end with `e`, whoever replies. Every
run conducts its dialogue (`conducts_run`), so what is shown of all conducted dialogues holds of
all runs, whatever state the replies come from. Nothing else is conducted: every dialogue is that of
some run (`Conducts.run_replay`).

**Inversion.** `Conducts` is opened by one lemma for each constructor of a program
(`conducts_done_iff`, `conducts_note_iff`, `conducts_ask_iff`); no proof about a program has to
look at `run` again.
-/

namespace AccountDirectory.Program

variable {Op : Type} {Answer : Op → Type} {α : Type}

/-- An operation that was asked for, with what became of it. -/
structure Exchange (Op : Type) (Answer : Op → Type) where
  op : Op
  reply : Reply (Answer op)

/-- The exchanges of a run, in order: the operations are answered from a state, as in `run`. -/
def dialogue {σ : Type} (respond : σ → (op : Op) → Reply (Answer op) × σ) :
    Program Op Answer α → σ → List (Exchange Op Answer)
  | .done _, _ => []
  | .note _ rest, s => rest.dialogue respond s
  | .ask op next, s =>
    match respond s op with
    | (.answer a, s) => ⟨op, .answer a⟩ :: (next a).dialogue respond s
    | (.interrupted, _) => [⟨op, .interrupted⟩]
    | (.never, _) => [⟨op, .never⟩]

/-- A reply without an answer, and the ending that it forces on a program. -/
inductive Breaks {β : Type} : Reply β → Ending α → Prop
  | interrupted : Breaks .interrupted .interrupted
  | never : Breaks .never .stalled

/-- **What a program can say.** The program can hold the dialogue and then end this way, if the
replies are those of the dialogue. -/
inductive Conducts : Program Op Answer α → List (Exchange Op Answer) → Ending α → Prop
  | done (a : α) : Conducts (.done a) [] (.finished a)
  | note (entry : LogEntry) {p : Program Op Answer α} {d e} (h : Conducts p d e) :
    Conducts (.note entry p) d e
  | ask (op : Op) (a : Answer op) {next : Answer op → Program Op Answer α} {d e}
    (h : Conducts (next a) d e) : Conducts (.ask op next) (⟨op, .answer a⟩ :: d) e
  | broken (op : Op) {r : Reply (Answer op)} {next : Answer op → Program Op Answer α} {e}
    (h : Breaks r e) : Conducts (.ask op next) [⟨op, r⟩] e

variable {σ : Type} (respond : σ → (op : Op) → Reply (Answer op) × σ)

/-- **A run conducts its dialogue.** -/
theorem conducts_run (p : Program Op Answer α) (s : σ) :
    Conducts p (p.dialogue respond s) (p.run respond s).ending := by
  induction p generalizing s with
  | done a => exact .done a
  | note entry rest ih => exact .note entry (ih s)
  | ask op next ih =>
    rw [dialogue, run]
    rcases respond s op with ⟨a | _ | _, t⟩
    · exact .ask op a (ih a t)
    · exact .broken op .interrupted
    · exact .broken op .never

/-- A run with a result conducts its dialogue up to the result. -/
theorem conducts_of_result? {p : Program Op Answer α} {s : σ} {a : α}
    (h : (p.run respond s).result? = some a) :
    Conducts p (p.dialogue respond s) (.finished a) := by
  have hconducts := conducts_run respond p s
  rw [Run.result?] at h
  split at h
  · next b hb =>
    obtain rfl := Option.some.inj h
    exact hb ▸ hconducts
  · cases h

/-- The operations that a run asked for are those of its dialogue. -/
theorem asked_run (p : Program Op Answer α) (s : σ) :
    (p.run respond s).asked = (p.dialogue respond s).map Exchange.op := by
  induction p generalizing s with
  | done a => rfl
  | note entry rest ih =>
    rw [dialogue, ← ih s]
    rfl
  | ask op next ih =>
    rw [dialogue, run]
    rcases respond s op with ⟨a | _ | _, t⟩
    · rw [List.map_cons, ← ih a t]
      rfl
    · rfl
    · rfl

/-! ### Inversion -/

variable {d : List (Exchange Op Answer)} {e : Ending α}

theorem conducts_done_iff {a : α} :
    Conducts (.done a : Program Op Answer α) d e ↔ d = [] ∧ e = .finished a := by
  constructor
  · intro h
    cases h
    exact ⟨rfl, rfl⟩
  · rintro ⟨rfl, rfl⟩
    exact .done a

theorem conducts_note_iff {entry : LogEntry} {p : Program Op Answer α} :
    Conducts (.note entry p) d e ↔ Conducts p d e := by
  constructor
  · intro h
    cases h with
    | note _ h => exact h
  · exact .note entry

theorem conducts_ask_iff {op : Op} {next : Answer op → Program Op Answer α} :
    Conducts (.ask op next) d e ↔
      (∃ r, d = [⟨op, r⟩] ∧ Breaks r e) ∨
        ∃ a d', d = ⟨op, .answer a⟩ :: d' ∧ Conducts (next a) d' e := by
  constructor
  · intro h
    cases h with
    | ask _ a h => exact .inr ⟨a, _, rfl, h⟩
    | broken _ h => exact .inl ⟨_, rfl, h⟩
  · rintro (⟨r, rfl, h⟩ | ⟨a, d', rfl, h⟩)
    · exact .broken op h
    · exact .ask op a h

/-! ### Replaying a dialogue -/

open Classical in
/-- Gives the replies of a dialogue, as long as its operations are asked for in their order. -/
noncomputable def replay :
    List (Exchange Op Answer) → (op : Op) → Reply (Answer op) × List (Exchange Op Answer)
  | [], _ => (.never, [])
  | ⟨op', r⟩ :: rest, op => if h : op' = op then (h ▸ r, rest) else (.never, [])

theorem replay_cons (op : Op) (r : Reply (Answer op)) (rest : List (Exchange Op Answer)) :
    replay (⟨op, r⟩ :: rest) op = (r, rest) := by
  rw [replay, dif_pos rfl]

/-- **Every dialogue is that of a run**, the one that gets the replies of the dialogue. -/
theorem Conducts.run_replay {p : Program Op Answer α} (h : Conducts p d e) :
    p.dialogue replay d = d ∧ (p.run replay d).ending = e := by
  induction h with
  | done a => exact ⟨rfl, rfl⟩
  | note entry h ih => exact ih
  | @ask op a next d e h ih =>
    rw [dialogue, run, replay_cons]
    exact ⟨congrArg (⟨op, .answer a⟩ :: ·) ih.1, ih.2⟩
  | broken op hr =>
    rw [dialogue, run, replay_cons]
    cases hr with
    | interrupted | never => exact ⟨rfl, rfl⟩

end AccountDirectory.Program
