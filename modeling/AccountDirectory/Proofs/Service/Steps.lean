import AccountDirectory.Proofs.Dialogue
import AccountDirectory.Service

/-!
# The steps of a service operation

One rule for each kind of step that the operations are made of: what a dialogue of the step followed
by a continuation `f` looks like. An operation is opened by rewriting with these rules from its
first step to its last, and a change of one operation leaves the rules as they are.

A step that asks a collaborator has three ways on: the reply breaks the run off, the collaborator
fails and the run ends with that failure, or the answer is handed to `f`.
-/

namespace AccountDirectory

open Program (Conducts Breaks conducts_note_iff conducts_done_iff conducts_ask_iff)

/-- An exchange between the service and one of its collaborators. -/
abbrev Service.Exchange : Type := Program.Exchange Collaborator Collaborator.Answer

/-- How a run of a service operation ends. -/
abbrev Service.Ending : Type := Program.Ending (Except DirectoryError User)

namespace Action

variable {α β ε : Type} {d : List Service.Exchange} {e : Program.Ending (Except DirectoryError β)}

theorem conducts_pure {b : β} :
    Conducts (pure b : Action β).run d e ↔ d = [] ∧ e = .finished (.ok b) :=
  conducts_done_iff

theorem conducts_fail {failure : DirectoryError} :
    Conducts (fail failure : Action β).run d e ↔ d = [] ∧ e = .finished (.error failure) :=
  conducts_done_iff

theorem conducts_fail_bind {failure : DirectoryError} {f : α → Action β} :
    Conducts (fail failure >>= f).run d e ↔ d = [] ∧ e = .finished (.error failure) :=
  conducts_done_iff

theorem conducts_log_bind {entry : LogEntry} {f : Unit → Action β} :
    Conducts (log entry >>= f).run d e ↔ Conducts (f ()).run d e :=
  conducts_note_iff

theorem conducts_debug_bind {message : String} {fields : Fields} {f : Unit → Action β} :
    Conducts (debug message fields >>= f).run d e ↔ Conducts (f ()).run d e :=
  conducts_log_bind

/-- The program of a question: its answer decides between the continuation and the end. -/
theorem run_ask_bind (op : Collaborator) (answer : op.Answer → Except ε α)
    (failure : ε → DirectoryError) (f : α → Action β) :
    (ask op answer failure >>= f).run = .ask op fun a ↦
      match answer a with
      | .ok x => (f x).run
      | .error b => .done (.error (failure b)) := by
  show Program.ask op _ = _
  congr 1
  funext a
  show Program.bind (.done ((answer a).mapError failure)) _ = _
  cases answer a <;> rfl

theorem conducts_ask_bind {op : Collaborator} {answer : op.Answer → Except ε α}
    {failure : ε → DirectoryError} {f : α → Action β} :
    Conducts (ask op answer failure >>= f).run d e ↔
      (∃ r, d = [⟨op, r⟩] ∧ Breaks r e) ∨
        (∃ b a, answer a = .error b ∧ d = [⟨op, .answer a⟩] ∧
          e = .finished (.error (failure b))) ∨
        ∃ x a, answer a = .ok x ∧ ∃ d', d = ⟨op, .answer a⟩ :: d' ∧
          Conducts (f x).run d' e := by
  rw [run_ask_bind, conducts_ask_iff]
  refine or_congr_right ⟨?_, ?_⟩
  · rintro ⟨a, d', rfl, h⟩
    rcases ha : answer a with b | x
    · rw [ha] at h
      obtain ⟨rfl, rfl⟩ := conducts_done_iff.1 h
      exact .inl ⟨b, a, ha, rfl, rfl⟩
    · rw [ha] at h
      exact .inr ⟨x, a, ha, d', rfl, h⟩
  · rintro (⟨b, a, ha, rfl, rfl⟩ | ⟨x, a, ha, d', rfl, h⟩)
    · exact ⟨a, [], rfl, by rw [ha]; exact conducts_done_iff.2 ⟨rfl, rfl⟩⟩
    · exact ⟨a, d', rfl, by rw [ha]; exact h⟩

end Action

namespace Service

variable {β : Type} {d : List Exchange} {e : Program.Ending (Except DirectoryError β)}

/-- The check of the domain asks nobody. -/
theorem conducts_requireDomain_bind {service : Service} {f : Unit → Action β} :
    Conducts (service.requireDomain >>= f).run d e ↔
      (Text.isBlankText service.domain ∧ d = [] ∧
          e = .finished (.error (.validation "domain" "directory domain is not configured"))) ∨
        (¬Text.isBlankText service.domain ∧ Conducts (f ()).run d e) := by
  rw [requireDomain]
  by_cases h : Text.isBlankText service.domain
  · rw [if_pos h, Action.conducts_fail_bind]
    simp only [h, not_true_eq_false, false_and, or_false, true_and]
  · rw [if_neg h]
    show Conducts (f ()).run d e ↔ _
    simp only [h, not_false_eq_true, true_and, Bool.false_eq_true, false_and, false_or]

/-- A read uses the caller's own token, or else the one that it asks for. -/
theorem conducts_readToken_bind {user : User} {f : String → Action β} :
    Conducts (readToken user >>= f).run d e ↔
      (∃ token, user.token.filter (!·.isEmpty) = some token ∧ Conducts (f token).run d e) ∨
        (user.token.filter (!·.isEmpty) = none ∧
          ((∃ r, d = [⟨.credential, r⟩] ∧ Breaks r e) ∨
            (∃ b, d = [⟨.credential, .answer (.error b)⟩] ∧
              e = .finished (.error
                (.unexpected "failed to get M2M token" (some (.credential b))))) ∨
            ∃ token d', d = ⟨.credential, .answer (.ok token)⟩ :: d' ∧
              Conducts (f token).run d' e)) := by
  rw [readToken]
  cases h : user.token.filter (!·.isEmpty) with
  | none =>
    simp only [bind_assoc, Action.debug, Action.conducts_log_bind, Action.conducts_ask_bind]
    simp
  | some token => simp

end Service

end AccountDirectory
