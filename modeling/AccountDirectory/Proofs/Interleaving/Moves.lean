import AccountDirectory.Proofs.Requests
import Mathlib.Logic.Function.Basic

/-!
# Calls at the same time

Any number of calls run at the same time over one steady clock, one lock and the two caches. A
schedule is a list of **moves**: time passes, a call does its next operation, a call gets the answer
to the request that it has sent, or its caller drops it. Every list of moves is a schedule, since a
move that is not possible changes nothing; so a law about all schedules has no hypothesis.

* One operation is done at a time, and any other call may move in between.
* An answer may be any one, and may come at any time or never; so answers can overtake each other.
* A call can be dropped only where it waits: for the lock, or for an answer. The lock is then free
  again if the call had it.

A state keeps what has happened, the newest event first.

**Inversion.** `Change` lists what a move can do and `change_step` says that it does one of these;
no law about schedules opens `step` again.
-/

namespace AccountDirectory

namespace Program

variable {Op : Type} {Answer : Op → Type} {α β : Type}

/-- The program without its log entries. -/
def silent : Program Op Answer α → Program Op Answer α
  | .done a => .done a
  | .note _ rest => rest.silent
  | .ask op next => .ask op fun a ↦ (next a).silent

theorem silent_bind (p : Program Op Answer α) (f : α → Program Op Answer β) :
    (p >>= f).silent = p.silent >>= fun a ↦ (f a).silent := by
  show (p.bind f).silent = p.silent.bind fun a ↦ (f a).silent
  induction p with
  | done a => rfl
  | note entry rest ih => exact ih
  | ask op next ih =>
    rw [bind, silent, silent, bind]
    congr 1
    funext a
    exact ih a

/-- Log entries are no part of a dialogue. -/
theorem conducts_silent_iff {p : Program Op Answer α} {d : List (Exchange Op Answer)}
    {e : Ending α} : Conducts p.silent d e ↔ Conducts p d e := by
  induction p generalizing d with
  | done a => exact Iff.rfl
  | note entry rest ih => rw [silent, ih, conducts_note_iff]
  | ask op next ih =>
    rw [silent, conducts_ask_iff, conducts_ask_iff]
    simp only [ih]

end Program

namespace Interleaving

/-! ### States and moves -/

/-- Where a call stands. -/
inductive Standing (α : Type)
  /-- It goes on with this program; it has finished if nothing is left to do. -/
  | running (rest : Procedure α)
  /-- It has sent a request and waits for the answer. -/
  | waiting (request : Http.Request)
    (next : Except Http.TransportFailure Http.Response → Procedure α)
  /-- Its caller has dropped it. -/
  | dropped

/-- What a call was seen to do. -/
inductive Act
  | did (op : Effect) (answer : op.Answer)
  | sent (request : Http.Request)
  | got (request : Http.Request) (answer : Except Http.TransportFailure Http.Response)
  | dropped

/-- An act of a caller, and when it was seen. -/
structure Event where
  time : Nat
  caller : Nat
  act : Act

/-- The state of all calls and of what they share. -/
structure State (α : Type) where
  /-- The steady clock. -/
  clock : Nat
  /-- The call that has the lock on the service token. -/
  holder : Option Nat
  /-- The cached service token. -/
  token : Option CachedToken
  /-- The cached key set. -/
  keys : Option CachedKeys
  calls : Nat → Standing α
  /-- What has happened, the newest first. -/
  history : List Event

/-- A move of a schedule. -/
inductive Move
  /-- Time passes. -/
  | pass (duration : Nat)
  /-- A call does its next operation; the calendar says what it says. -/
  | act (caller calendar : Nat)
  /-- A call gets the answer to its request. -/
  | receive (caller : Nat) (answer : Except Http.TransportFailure Http.Response)
  /-- A call is dropped. -/
  | drop (caller : Nat)

namespace State

variable {α : Type}

/-- All calls stand at their beginning, and nothing is cached. -/
def initial (calls : Nat → Procedure α) : State α where
  clock := 0
  holder := none
  token := none
  keys := none
  calls i := .running (calls i).silent
  history := []

/-- A call comes to stand elsewhere, by an act. -/
def put (s : State α) (i : Nat) (standing : Standing α) (act : Act) : State α :=
  { s with
    calls := Function.update s.calls i standing
    history := ⟨s.clock, i, act⟩ :: s.history }

/-- What is answered to an operation, and what it does to the state that is shared. A call waits for
the lock until it is free, and an exchange is not done at once. -/
def perform (s : State α) (i calendar : Nat) : (op : Effect) → Option (op.Answer × State α)
  | .steadyClock => some (s.clock, s)
  | .calendar => some (calendar, s)
  | .exchange _ => none
  | .lockToken => if s.holder = none then some ((), { s with holder := some i }) else none
  | .unlockToken => some ((), { s with holder := none })
  | .cachedToken => some (s.token, s)
  | .storeToken entry => some ((), { s with token := some entry })
  | .cachedKeys => some (s.keys, s)
  | .storeKeys entry => some ((), { s with keys := some entry })

/-- A call does its next operation: it sends a request, or gets its answer at once. -/
def goOn (s : State α) (i calendar : Nat) :
    (op : Effect) → (op.Answer → Procedure α) → State α
  | .exchange request, next => s.put i (.waiting request next) (.sent request)
  | op, next =>
    match s.perform i calendar op with
    | some (a, s') => s'.put i (.running (next a)) (.did op a)
    | none => s

/-- A call is dropped and loses the lock. -/
def drop (s : State α) (i : Nat) : State α :=
  { s with holder := s.holder.filter (· ≠ i) }.put i .dropped .dropped

/-- One move. -/
def step (s : State α) : Move → State α
  | .pass duration => { s with clock := s.clock + duration }
  | .act i calendar =>
    match s.calls i with
    | .running (.ask op next) => s.goOn i calendar op next
    | _ => s
  | .receive i answer =>
    match s.calls i with
    | .waiting request next => s.put i (.running (next answer)) (.got request answer)
    | _ => s
  | .drop i =>
    match s.calls i with
    | .waiting _ _ => s.drop i
    | .running (.ask .lockToken _) => s.drop i
    | _ => s

/-- The state after a schedule. -/
def run (calls : Nat → Procedure α) (moves : List Move) : State α :=
  moves.foldl step (initial calls)

/-! ### What a move can do -/

/-- **The effect of an operation** on the state that is shared, with its answer. -/
inductive Performs (s : State α) (i : Nat) : (op : Effect) → op.Answer → State α → Prop
  | steadyClock : Performs s i .steadyClock s.clock s
  | calendar (now : Nat) : Performs s i .calendar now s
  | lockToken (h : s.holder = none) : Performs s i .lockToken () { s with holder := some i }
  | unlockToken : Performs s i .unlockToken () { s with holder := none }
  | cachedToken : Performs s i .cachedToken s.token s
  | storeToken (entry) : Performs s i (.storeToken entry) () { s with token := some entry }
  | cachedKeys : Performs s i .cachedKeys s.keys s
  | storeKeys (entry) : Performs s i (.storeKeys entry) () { s with keys := some entry }

theorem performs_of_perform {s s' : State α} {i calendar : Nat} {op : Effect} {a : op.Answer}
    (h : s.perform i calendar op = some (a, s')) : s.Performs i op a s' := by
  cases op with
  | exchange => cases h
  | lockToken =>
    rw [perform] at h
    split_ifs at h with hn
    cases h
    exact .lockToken hn
  | _ =>
    cases h
    constructor

/-- A call waits, for the lock or for an answer. -/
inductive Waits : Standing α → Prop
  | forAnswer (request next) : Waits (.waiting request next)
  | forLock (next) : Waits (.running (.ask .lockToken next))

/-- **What a move can do.** -/
inductive Change (s : State α) : State α → Prop
  | idle : Change s s
  | passed (duration : Nat) : Change s { s with clock := s.clock + duration }
  | did {i op next a s'} (hi : s.calls i = .running (.ask op next)) (h : s.Performs i op a s') :
    Change s (s'.put i (.running (next a)) (.did op a))
  | sent {i request next} (hi : s.calls i = .running (.ask (.exchange request) next)) :
    Change s (s.put i (.waiting request next) (.sent request))
  | got {i request next} (hi : s.calls i = .waiting request next) (answer) :
    Change s (s.put i (.running (next answer)) (.got request answer))
  | dropped {i} (hi : Waits (s.calls i)) : Change s (s.drop i)

theorem change_goOn {s : State α} {i calendar : Nat} {op : Effect}
    {next : op.Answer → Procedure α} (hi : s.calls i = .running (.ask op next)) :
    Change s (s.goOn i calendar op next) := by
  have hother : Change s (match s.perform i calendar op with
      | some (a, s') => s'.put i (.running (next a)) (.did op a)
      | none => s) := by
    split
    · next a s' h => exact .did hi (performs_of_perform h)
    · exact .idle
  cases op with
  | exchange request => exact .sent hi
  | _ => exact hother

/-- **Each move does one of these.** -/
theorem change_step (s : State α) (m : Move) : Change s (s.step m) := by
  cases m with
  | pass duration => exact .passed duration
  | act i calendar =>
    rw [step]
    split
    · next hi => exact change_goOn hi
    · exact .idle
  | receive i answer =>
    rw [step]
    split
    · next hi => exact .got hi answer
    · exact .idle
  | drop i =>
    rw [step]
    split
    · next hi => exact .dropped (hi ▸ .forAnswer _ _)
    · next hi => exact .dropped (hi ▸ .forLock _)
    · exact .idle

/-- **What a whole schedule preserves**: what holds at the beginning and is kept by each move. -/
theorem run_induction {calls : Nat → Procedure α} {p : State α → Prop} (hinit : p (initial calls))
    (hchange : ∀ s s', p s → Change s s' → p s') (moves : List Move) : p (run calls moves) := by
  have hfold : ∀ (moves : List Move) (s : State α), p s → p (moves.foldl step s) := by
    intro moves
    induction moves with
    | nil => exact fun s hs ↦ hs
    | cons m moves ih => exact fun s hs ↦ ih _ (hchange s _ hs (change_step s m))
  exact hfold moves _ hinit

end State

end Interleaving

end AccountDirectory
