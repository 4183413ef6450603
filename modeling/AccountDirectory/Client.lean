import AccountDirectory.Service

/-!
# The client of the service

A client call is a service call that can be cancelled, with failures turned into those that a client
sees.

* When the call was cancelled before it started, nothing of it happens.
* When it is cancelled while it waits for a collaborator, it stops there.
* Every failure is logged once, after everything else of the call: at debug level when it is a
  normal answer, else as an error.
-/

namespace AccountDirectory.Client

open Program (Happening Ending Reply Run)

/-- What is logged of a failure. -/
def failureEntry (operation : String) (e : DirectoryError) : LogEntry :=
  let fields := [("operation", operation), ("error", e.message)]
  if e.isExpected then .event .debug "user_directory call returned" fields
  else .event .error "user_directory call failed" fields

/-- The service's outcome, as far as there is one: an interrupted call is a cancelled one. -/
def outcome? : Ending (Except DirectoryError User) → Option (Except DirectoryError User)
  | .finished outcome => some outcome
  | .interrupted => some (.error .cancelled)
  | .stalled => none

/-- A finished client call: what happened, what it returned (nothing when it waits for ever), and
the state it left. -/
structure Result (Op σ : Type) where
  happenings : List (Happening Op)
  outcome : Option (Except ClientError User)
  state : σ

/-- Turns the run of an operation into the result of a client call. -/
def Result.ofRun {Op σ : Type} (operation : String)
    (r : Run Op σ (Except DirectoryError User)) : Result Op σ :=
  match outcome? r.ending with
  | none => ⟨r.happenings, none, r.state⟩
  | some (.ok user) => ⟨r.happenings, some (.ok user), r.state⟩
  | some (.error e) =>
    ⟨r.happenings ++ [.logged (failureEntry operation e)], some (.error (.ofDirectory e)), r.state⟩

/-- Calls an operation whose program is given over some interface. -/
def callProgram {Op σ : Type} {Answer : Op → Type} (cancelled : Bool) (operation : String)
    (program : Program Op Answer (Except DirectoryError User))
    (respond : σ → (op : Op) → Reply (Answer op) × σ) (s : σ) : Result Op σ :=
  Result.ofRun operation <|
    if cancelled then ⟨[], .interrupted, s⟩ else program.run respond s

/-- A call that nothing cancels, as a program: the failure is logged at its end. -/
def program {Op : Type} {Answer : Op → Type} (operation : String)
    (p : Program Op Answer (Except DirectoryError User)) :
    Program Op Answer (Except ClientError User) := do
  match ← p with
  | .ok user => pure (.ok user)
  | .error e =>
    Program.log (failureEntry operation e)
    pure (.error (.ofDirectory e))

/-- Calls an operation of the service; `cancelled` says that the call was cancelled before. -/
def call {σ : Type} (service : Service) (cancelled : Bool) (c : Service.Call)
    (respond : σ → (op : Collaborator) → Reply op.Answer × σ) (s : σ) : Result Collaborator σ :=
  callProgram cancelled c.name (service.program c) respond s

end AccountDirectory.Client
