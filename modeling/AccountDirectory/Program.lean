import AccountDirectory.Log

/-!
# Programs over an interface

A `Program` says what to do and leaves open who does it: it ends with a result, writes a log entry,
or asks for an operation and goes on with the answer. The operations form an interface `Op`, and
each operation has its own type of answers.

## Three readings

* `run` answers the operations from a state and gives the transcript of what happened. An answer may
  also never come, or the wait for it may be interrupted; the program then stops where it is.
* `expand` replaces each operation by a program over another interface.
* `interpret` performs a program in any monad.

A program is a finite tree, so each of these is a recursion on it.
-/

namespace AccountDirectory

/-- What to do, over an interface of operations with their answers. -/
inductive Program (Op : Type) (Answer : Op → Type) (α : Type) : Type
  | done (result : α)
  | note (entry : LogEntry) (rest : Program Op Answer α)
  | ask (op : Op) (next : Answer op → Program Op Answer α)

namespace Program

variable {Op : Type} {Answer : Op → Type} {α β : Type}

/-- One program after another. -/
def bind : Program Op Answer α → (α → Program Op Answer β) → Program Op Answer β
  | .done a, f => f a
  | .note entry rest, f => .note entry (rest.bind f)
  | .ask op next, f => .ask op fun answer ↦ (next answer).bind f

instance : Monad (Program Op Answer) where
  pure := .done
  bind := bind

/-- Writes a log entry. -/
def log (entry : LogEntry) : Program Op Answer Unit := .note entry (.done ())

/-- Asks for one operation. -/
def call (op : Op) : Program Op Answer (Answer op) := .ask op .done

theorem bind_done (p : Program Op Answer α) : p.bind .done = p := by
  induction p with
  | done => rfl
  | note entry rest ih => rw [bind, ih]
  | ask op next ih => rw [bind]; congr; funext answer; exact ih answer

theorem bind_assoc {γ : Type} (p : Program Op Answer α) (f : α → Program Op Answer β)
    (g : β → Program Op Answer γ) : (p.bind f).bind g = p.bind fun a ↦ (f a).bind g := by
  induction p with
  | done => rfl
  | note entry rest ih => simp only [bind, ih]
  | ask op next ih => simp only [bind, ih]

instance : LawfulMonad (Program Op Answer) :=
  .mk' (Program Op Answer) (fun p ↦ bind_done p) (fun _ _ ↦ rfl) fun p f g ↦ bind_assoc p f g

/-! ### Running -/

/-- What becomes of an operation that was asked for. -/
inductive Reply (α : Type)
  | answer (a : α)
  /-- The wait was interrupted. -/
  | interrupted
  /-- Nothing ever comes. -/
  | never

/-- Something that happened in a run. -/
inductive Happening (Op : Type)
  | logged (entry : LogEntry)
  | asked (op : Op)

/-- How a run ended. -/
inductive Ending (α : Type)
  | finished (result : α)
  | interrupted
  | stalled

/-- A run: what happened, how it ended, and the state it left. -/
structure Run (Op : Type) (σ α : Type) where
  happenings : List (Happening Op)
  ending : Ending α
  state : σ

/-- The run with one more happening before it. -/
def Run.after {σ : Type} (h : Happening Op) (r : Run Op σ α) : Run Op σ α :=
  { r with happenings := h :: r.happenings }

/-- Runs a program, with the operations answered from a state. -/
def run {σ : Type} (respond : σ → (op : Op) → Reply (Answer op) × σ) :
    Program Op Answer α → σ → Run Op σ α
  | .done a, s => ⟨[], .finished a, s⟩
  | .note entry rest, s => (rest.run respond s).after (.logged entry)
  | .ask op next, s =>
    match respond s op with
    | (.answer a, s) => ((next a).run respond s).after (.asked op)
    | (.interrupted, s) => ⟨[.asked op], .interrupted, s⟩
    | (.never, s) => ⟨[.asked op], .stalled, s⟩

namespace Run

variable {σ : Type}

/-- The operations asked for, in order. -/
def asked (r : Run Op σ α) : List Op :=
  r.happenings.filterMap fun
    | .asked op => some op
    | .logged _ => none

/-- The log entries written, in order. -/
def logged (r : Run Op σ α) : List LogEntry :=
  r.happenings.filterMap fun
    | .logged entry => some entry
    | .asked _ => none

/-- The result of a run that finished. -/
def result? (r : Run Op σ α) : Option α :=
  match r.ending with
  | .finished a => some a
  | _ => none

end Run

/-! ### Other readings -/

/-- Replaces each operation by a program. -/
def expand {Op' : Type} {Answer' : Op' → Type}
    (adapter : (op : Op) → Program Op' Answer' (Answer op)) :
    Program Op Answer α → Program Op' Answer' α
  | .done a => .done a
  | .note entry rest => .note entry (rest.expand adapter)
  | .ask op next => (adapter op).bind fun answer ↦ (next answer).expand adapter

/-- Performs a program in a monad. -/
def interpret {m : Type → Type} [Monad m] (onNote : LogEntry → m Unit)
    (onAsk : (op : Op) → m (Answer op)) : Program Op Answer α → m α
  | .done a => pure a
  | .note entry rest => onNote entry >>= fun _ ↦ rest.interpret onNote onAsk
  | .ask op next => onAsk op >>= fun answer ↦ (next answer).interpret onNote onAsk

end Program

end AccountDirectory
