import AccountDirectory.Client
import AccountDirectory.Proofs.Service.Steps

/-!
# What a client call logs

Two client calls meet the same collaborators, whose answers are fixed beforehand: a `Script` says
what each collaborator answers at each place of the call, whatever it is asked. So the two calls may
differ in what they ask, but not in what they hear.

`LogsAlike p p'` says that two programs log the same from a place of the script on, up to the
failure that the client logs at the end. There is one rule for each kind of step: two steps log
alike if they write the same entry, or ask the same collaborator, and what follows logs alike for
every answer that the script has there.
-/

namespace AccountDirectory

open Program (Happening Reply Run)

/-! ### Answers that are fixed beforehand -/

/-- What each collaborator answers at one place. -/
structure Answers where
  credential : Reply (Except CredentialError String)
  verify : Reply (Except TokenError Claims)
  get : Reply (Except GatewayError (Option Account))
  search : Reply (Except GatewayError (List Account))
  patch : Reply (Except GatewayError (Option Metadata))

/-- The answer to an operation, whatever tokens and terms it carries. -/
def Answers.reply (answers : Answers) : (op : Collaborator) → Reply op.Answer
  | .credential => answers.credential
  | .verify .. => answers.verify
  | .get .. => answers.get
  | .search .. => answers.search
  | .patch .. => answers.patch

/-- **A fixed sequence of answers.** -/
abbrev Script : Type := Nat → Answers

/-- Answers from a script, in which the state is a place. -/
def Script.respond (script : Script) (place : Nat) (op : Collaborator) : Reply op.Answer × Nat :=
  ((script place).reply op, place + 1)

/-- What a step makes of the answer that it hears. -/
def heard {ε α β : Type} (reply : Reply β) (answer : β → Except ε α) : Reply (Except ε α) :=
  match reply with
  | .answer a => .answer (answer a)
  | .interrupted => .interrupted
  | .never => .never

theorem heard_id {ε α : Type} {reply : Reply (Except ε α)} : heard reply id = reply := by
  cases reply <;> rfl

namespace Client

/-! ### Log entries -/

/-- The log entries of a client call, in order. -/
def Result.logged {Op σ : Type} (r : Result Op σ) : List LogEntry :=
  r.happenings.filterMap fun
    | .logged entry => some entry
    | .asked _ => none

variable {operation : String}

/-- Something that happens first in a run happens first in the call. -/
theorem happenings_ofRun_after {Op σ : Type} (h : Happening Op)
    (r : Run Op σ (Except DirectoryError User)) :
    (Result.ofRun operation (r.after h)).happenings =
      h :: (Result.ofRun operation r).happenings := by
  rcases r with ⟨happenings, ⟨e | user⟩ | - | -, s⟩ <;> rfl

/-- What a step logs from a place of the script on, with the failure that the client logs. -/
def entries (script : Script) (operation : String) (place : Nat) (p : Action User) :
    List LogEntry :=
  (Result.ofRun operation (p.run.run script.respond place)).logged

variable {script : Script} {place : Nat} {α ε : Type}

theorem entries_log {entry : LogEntry} {f : Unit → Action User} :
    entries script operation place (Action.log entry >>= f) =
      entry :: entries script operation place (f ()) :=
  congrArg (List.filterMap _) (happenings_ofRun_after (.logged entry) _)

/-- What a question logs is decided by the answer that is heard. -/
theorem entries_ask (op : Collaborator) (answer : op.Answer → Except ε α)
    (failure : ε → DirectoryError) (f : α → Action User) :
    entries script operation place (Action.ask op answer failure >>= f) =
      match heard ((script place).reply op) answer with
      | .answer (.ok x) => entries script operation (place + 1) (f x)
      | .answer (.error b) => [failureEntry operation (failure b)]
      | .interrupted => [failureEntry operation .cancelled]
      | .never => [] := by
  rw [entries, Action.run_ask_bind, Program.run, Script.respond]
  rcases (script place).reply op with a | - | -
  · dsimp only
    rw [Result.logged, happenings_ofRun_after, heard]
    rcases answer a with b | x
    · rfl
    · rfl
  · rfl
  · rfl

/-! ### Steps that log the same -/

/-- **The two steps log the same** from a place of the script on. -/
def LogsAlike (script : Script) (operation : String) (place : Nat) (p p' : Action User) : Prop :=
  entries script operation place p = entries script operation place p'

namespace LogsAlike

theorem refl (p : Action User) : LogsAlike script operation place p p := rfl

/-- What follows a failure does not matter. -/
theorem fail {e : DirectoryError} {f f' : α → Action User} :
    LogsAlike script operation place (Action.fail e >>= f) (Action.fail e >>= f') :=
  rfl

/-- The user that is returned is not logged. -/
theorem pure {user user' : User} :
    LogsAlike script operation place (Pure.pure user) (Pure.pure user') :=
  rfl

theorem log {entry entry' : LogEntry} {f f' : Unit → Action User} (he : entry = entry')
    (h : LogsAlike script operation place (f ()) (f' ())) :
    LogsAlike script operation place (Action.log entry >>= f) (Action.log entry' >>= f') := by
  rw [LogsAlike, entries_log, entries_log, he, h]

/-- **Two questions log the same** if they hear the same, and what follows logs the same for every
answer that may be heard there. -/
theorem ask {op op' : Collaborator} {answer : op.Answer → Except ε α}
    {answer' : op'.Answer → Except ε α} {failure : ε → DirectoryError} {f f' : α → Action User}
    (hheard : heard ((script place).reply op) answer = heard ((script place).reply op') answer')
    (h : ∀ x, heard ((script place).reply op) answer = .answer (.ok x) →
      LogsAlike script operation (place + 1) (f x) (f' x)) :
    LogsAlike script operation place (Action.ask op answer failure >>= f)
      (Action.ask op' answer' failure >>= f') := by
  rw [LogsAlike, entries_ask, entries_ask, ← hheard]
  rcases hx : heard ((script place).reply op) answer with (b | x) | - | -
  · rfl
  · exact h x hx
  · rfl
  · rfl

/-- Both go on only if the service has a domain. -/
theorem requireDomain {service : Service} {f f' : Unit → Action User}
    (h : ¬Text.isBlankText service.domain → LogsAlike script operation place (f ()) (f' ())) :
    LogsAlike script operation place (service.requireDomain >>= f)
      (service.requireDomain >>= f') := by
  rw [Service.requireDomain]
  by_cases hd : Text.isBlankText service.domain
  · rw [if_pos hd]
    exact fail
  · rw [if_neg hd]
    exact h hd

end LogsAlike

end Client

/-! ### The token of a read -/

/-- The record has a token that is not empty. -/
def User.hasToken (user : User) : Bool := (user.token.filter (!·.isEmpty)).isSome

/-- The place after the token of a read has been found: the record's own is at hand, a service token
is the first answer. -/
def Script.afterToken (script : Script) (hasToken : Bool) : Option Nat :=
  if hasToken then some 0
  else
    match (script 0).credential with
    | .answer (.ok _) => some 1
    | _ => none

/-- Both go on with some token. -/
theorem Client.LogsAlike.readToken {script : Script} {operation : String} {user user' : User}
    {f f' : String → Action User} (htoken : user.hasToken = user'.hasToken)
    (h : ∀ place ∈ script.afterToken user.hasToken, ∀ token token',
      LogsAlike script operation place (f token) (f' token')) :
    LogsAlike script operation 0 (Service.readToken user >>= f)
      (Service.readToken user' >>= f') := by
  rw [Service.readToken, Service.readToken]
  rw [User.hasToken] at htoken h
  rw [User.hasToken] at htoken
  cases hown : user.token.filter (!·.isEmpty) with
  | some token =>
    rw [hown] at htoken h
    obtain ⟨token', hown'⟩ := Option.isSome_iff_exists.1 htoken.symm
    rw [hown']
    exact h 0 rfl token token'
  | none =>
    rw [hown] at htoken h
    have hnone : user'.token.filter (!·.isEmpty) = none := by
      rwa [Option.isSome_none, eq_comm, Option.isSome_eq_false_iff, Option.isNone_iff_eq_none]
        at htoken
    rw [hnone]
    simp only [bind_assoc, Action.debug]
    refine .log rfl (.ask rfl fun token hheard ↦ h 1 ?_ token token)
    have hfirst : (script 0).credential = .answer (.ok token) := heard_id.symm.trans hheard
    show Script.afterToken script false = some 1
    rw [Script.afterToken, hfirst]
    rfl

end AccountDirectory
