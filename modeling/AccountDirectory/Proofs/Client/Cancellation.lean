import AccountDirectory.Client
import AccountDirectory.Proofs.Service.MutationGate
import AccountDirectory.Proofs.Service.Reads

/-!
# Cancelled calls

A client call can be cancelled before it starts, or while it waits for a collaborator. A cancelled
call does nothing that the same call would not have done if it had been left alone: it asks the same
collaborators in the same order, and stops earlier.

**The cut.** Both calls meet the same collaborators, who answer or hang (`behave`). `patient` waits
for them as long as it takes; `impatient` has a limit, and interrupts the wait for the operation
that comes after that many others. `run_outlasted` and `run_cut` compare the two runs of any program
over any interface.

**Who says that a call was cancelled.** No operation of the service fails in this way by itself
(`ne_cancelled_of_conducts`), so a client that sees this failure has cancelled its call.
-/

namespace AccountDirectory

/-! ### Runs that are cut short -/

namespace Program

variable {Op : Type} {Answer : Op → Type} {α σ : Type}

/-- Waits for each answer as long as it takes. -/
def patient (behave : σ → (op : Op) → Option (Answer op) × σ) (s : σ) (op : Op) :
    Reply (Answer op) × σ :=
  (match (behave s op).1 with
    | some a => .answer a
    | none => .never, (behave s op).2)

/-- Waits in the same way, but when the limit is used up the next wait is interrupted. -/
def impatient (behave : σ → (op : Op) → Option (Answer op) × σ) :
    Option Nat × σ → (op : Op) → Reply (Answer op) × (Option Nat × σ)
  | (none, s), op => ((patient behave s op).1, none, (patient behave s op).2)
  | (some (n + 1), s), op => ((patient behave s op).1, some n, (patient behave s op).2)
  | (some 0, s), op => (.interrupted, some 0, (patient behave s op).2)

variable {behave : σ → (op : Op) → Option (Answer op) × σ} {op : Op}
  {next : Answer op → Program Op Answer α} {s t : σ}

theorem patient_of_some {a : Answer op} (h : behave s op = (some a, t)) :
    patient behave s op = (.answer a, t) := by
  rw [patient, h]

theorem patient_of_none (h : behave s op = (none, t)) : patient behave s op = (.never, t) := by
  rw [patient, h]

/-- A run goes on with an answer. -/
theorem run_ask_of_answer {respond : σ → (op : Op) → Reply (Answer op) × σ} {a : Answer op}
    (h : respond s op = (.answer a, t)) :
    (ask op next).run respond s = ((next a).run respond t).after (.asked op) := by
  rw [run, h]

/-- A run without an answer is stalled. -/
theorem run_ask_of_never {respond : σ → (op : Op) → Reply (Answer op) × σ}
    (h : respond s op = (.never, t)) :
    (ask op next).run respond s = ⟨[.asked op], .stalled, t⟩ := by
  rw [run, h]

theorem Run.asked_after_asked (r : Run Op σ α) : (r.after (.asked op)).asked = op :: r.asked := rfl

/-- The limit after a wait. -/
theorem impatient_of_patient {r : Reply (Answer op)} (h : patient behave s op = (r, t)) :
    ∀ limit : Option Nat, limit ≠ some 0 →
      impatient behave (limit, s) op = (r, limit.map (· - 1), t) := by
  rintro (- | - | n) hlimit
  · rw [impatient, h]
    rfl
  · exact absurd rfl hlimit
  · rw [impatient, h]
    rfl

/-- **A limit that is not reached changes nothing.** -/
theorem run_outlasted {p : Program Op Answer α} {limit : Option Nat} {s : σ}
    (h : ∀ n ∈ limit, (p.run (patient behave) s).asked.length ≤ n) :
    (p.run (impatient behave) (limit, s)).happenings = (p.run (patient behave) s).happenings ∧
      (p.run (impatient behave) (limit, s)).ending = (p.run (patient behave) s).ending := by
  -- each answer changes the state and lowers the limit, so both vary in the induction
  induction p generalizing limit s with
  | done a => exact ⟨rfl, rfl⟩
  | note entry rest ih =>
    obtain ⟨hh, he⟩ := ih h
    exact ⟨congrArg (Happening.logged entry :: ·) hh, he⟩
  | ask op next ih =>
    rcases hb : behave s op with ⟨- | a, t⟩
    · have hp := patient_of_none hb
      rw [run_ask_of_never hp] at h ⊢
      have hlimit : limit ≠ some 0 := fun hz ↦ absurd (h 0 hz) (by simp [Run.asked])
      rw [run_ask_of_never (impatient_of_patient hp limit hlimit)]
      exact ⟨rfl, rfl⟩
    · have hp := patient_of_some hb
      rw [run_ask_of_answer hp] at h ⊢
      rw [Run.asked_after_asked] at h
      have hlimit : limit ≠ some 0 := fun hz ↦ absurd (h 0 hz) (by simp)
      rw [run_ask_of_answer (impatient_of_patient hp limit hlimit)]
      have hrest : ∀ n ∈ limit.map (· - 1), ((next a).run (patient behave) t).asked.length ≤ n := by
        intro n hn
        obtain ⟨m, hm, rfl⟩ := Option.map_eq_some_iff.1 hn
        exact Nat.le_sub_one_of_lt (h m hm)
      obtain ⟨hh, he⟩ := ih a hrest
      exact ⟨congrArg (Happening.asked op :: ·) hh, he⟩

/-- **A limit that is reached ends the run there.** The run has done what the other run begins with,
and the last thing that it did was to ask for the operation whose wait was interrupted. -/
theorem run_cut {p : Program Op Answer α} {n : Nat} {s : σ}
    (h : n < (p.run (patient behave) s).asked.length) :
    (p.run (impatient behave) (some n, s)).ending = .interrupted ∧
      (p.run (impatient behave) (some n, s)).asked =
        (p.run (patient behave) s).asked.take (n + 1) ∧
      ∃ before op, (p.run (impatient behave) (some n, s)).happenings = before ++ [.asked op] ∧
        before ++ [.asked op] <+: (p.run (patient behave) s).happenings := by
  induction p generalizing n s with
  | done a => exact absurd h (Nat.not_lt_zero n)
  | note entry rest ih =>
    obtain ⟨he, ha, before, op, hh, hbegins⟩ := ih h
    refine ⟨he, ha, .logged entry :: before, op, congrArg (Happening.logged entry :: ·) hh, ?_⟩
    exact List.cons_prefix_cons.2 ⟨rfl, hbegins⟩
  | ask op next ih =>
    rcases n with - | n
    · -- this is the wait that is interrupted
      have hinterrupted : (ask op next).run (impatient behave) (some 0, s) =
          ⟨[.asked op], .interrupted, some 0, (patient behave s op).2⟩ := rfl
      have hfirst : ∃ rest : Run Op σ α, (ask op next).run (patient behave) s =
          rest.after (.asked op) := by
        rcases hb : behave s op with ⟨- | a, t⟩
        · exact ⟨⟨[], .stalled, t⟩, run_ask_of_never (patient_of_none hb)⟩
        · exact ⟨_, run_ask_of_answer (patient_of_some hb)⟩
      obtain ⟨rest, hrest⟩ := hfirst
      rw [hinterrupted, hrest]
      exact ⟨rfl, rfl, [], op, rfl, List.cons_prefix_cons.2 ⟨rfl, List.nil_prefix⟩⟩
    · rcases hb : behave s op with ⟨- | a, t⟩
      · rw [run_ask_of_never (patient_of_none hb)] at h
        exact absurd h (by simp [Run.asked])
      · have hp := patient_of_some hb
        rw [run_ask_of_answer hp, Run.asked_after_asked] at h
        rw [run_ask_of_answer hp, run_ask_of_answer (impatient_of_patient hp (some (n + 1)) nofun)]
        obtain ⟨he, ha, before, op', hh, hbegins⟩ := ih a (Nat.lt_of_succ_lt_succ h)
        refine ⟨he, congrArg (op :: ·) ha, .asked op :: before, op',
          congrArg (Happening.asked op :: ·) hh, ?_⟩
        exact List.cons_prefix_cons.2 ⟨rfl, hbegins⟩

/-- Who waits as long as it takes is not interrupted. -/
theorem ending_run_patient_ne_interrupted (p : Program Op Answer α) (s : σ) :
    (p.run (patient behave) s).ending ≠ .interrupted := by
  induction p generalizing s with
  | done a => nofun
  | note entry rest ih => exact ih s
  | ask op next ih =>
    rcases hb : behave s op with ⟨- | a, t⟩
    · rw [run_ask_of_never (patient_of_none hb)]
      nofun
    · rw [run_ask_of_answer (patient_of_some hb)]
      exact ih a t

end Program

/-! ### Who fails as cancelled -/

namespace Service

open Program (Conducts)

theorem select_ne_cancelled {accounts : List Account} {criteria : Criteria} {requested : String} :
    Selection.select accounts criteria requested ≠ .error .cancelled := by
  rw [Selection.select_eq_verdict]
  rcases (Selection.confirmations accounts).head? with - | ⟨account, id⟩
  · intro h
    cases h
  · rw [Selection.verdict]
    split_ifs
    all_goals
      intro h
      cases h

theorem getFailure_ne_cancelled (b : GatewayError) : getFailure b ≠ .cancelled := by
  rcases b with ⟨code, reason⟩ | detail | detail
  · rw [getFailure, DirectoryError.ofStatus]
    split_ifs <;> nofun
  · nofun
  · nofun

/-- **No operation of the service fails as cancelled**, whatever its collaborators answer. -/
theorem ne_cancelled_of_conducts {service : Service} {call : Call} {d : List Exchange}
    {failure : DirectoryError}
    (h : Conducts (service.program call) d (.finished (.error failure))) :
    failure ≠ .cancelled := by
  rintro rfl
  generalize he : (Program.Ending.finished (.error .cancelled) : Ending) = e at h
  -- a run without an answer does not finish; one with an answer fails as the collaborator did
  cases call with
  | getUser user =>
    cases getRun_of_conducts h with
    | noBearer _ hr | unanswered _ hr => cases he ▸ hr
    | @failed _ _ b =>
      exact getFailure_ne_cancelled b (Except.error.inj (Program.Ending.finished.inj he)).symm
    | _ => cases he
  | searchUser user criteriaName =>
    cases searchRun_of_conducts h with
    | noBearer hr | unanswered _ _ hr => cases he ▸ hr
    | answered => exact select_ne_cancelled (Program.Ending.finished.inj he).symm
    | _ => cases he
  | lookup input =>
    cases lookupRun_of_conducts h with
    | unverified _ hr => cases he ▸ hr
    | _ => cases he
  | updateUser user =>
    cases updateRun_of_conducts h with
    | unverified _ hr | unpatched _ _ _ hr => cases he ▸ hr
    | _ => cases he

/-- An update that waits for the verifier has not asked for a patch. -/
theorem not_isPatch_of_mem_take {service : Service} {user : User} {d : List Exchange} {e : Ending}
    (h : Conducts (service.program (.updateUser user)) d e) {n : Nat} {token scope : String}
    (hn : (d.map Program.Exchange.op)[n]? = some (.verify token scope)) :
    ∀ op ∈ (d.map Program.Exchange.op).take (n + 1), op.isPatch = false := by
  -- the verifier is asked first, so it is the only one so far
  have hfirst : n = 0 := by
    rcases n with - | - | n
    · rfl
    · cases updateRun_of_conducts h <;> cases hn
    · cases updateRun_of_conducts h <;> cases hn
  subst hfirst
  intro op hop
  rw [List.take_one, List.head?_eq_getElem?, hn] at hop
  rw [List.mem_singleton.1 hop]
  rfl

end Service

/-! ### Cancelled client calls -/

namespace Client

open Program (Happening Run patient impatient)

/-- When a caller cancels its call. -/
inductive Cancellation
  | never
  | before
  /-- While the call waits for a collaborator, and has asked that many others before. -/
  | waiting (asked : Nat)

namespace Cancellation

/-- How many waits the call gets through. -/
def limit : Cancellation → Option Nat
  | waiting n => some n
  | _ => none

/-- The cancellation comes before the call is over, if the call, left alone, would ask that many
collaborators. -/
def Fires : Cancellation → Nat → Prop
  | never, _ => False
  | before, _ => True
  | waiting n, asked => n < asked

/-- What is left of a list of questions. -/
def cut {α : Type} : Cancellation → List α → List α
  | never, l => l
  | before, _ => []
  | waiting n, l => l.take (n + 1)

end Cancellation

/-- The operations that a client call asked for, in order. -/
def Result.asked {Op σ : Type} (r : Result Op σ) : List Op :=
  r.happenings.filterMap fun
    | .asked op => some op
    | .logged _ => none

/-- A call of the service that is cancelled at some time. -/
def callCancelled {σ : Type} (service : Service) (c : Service.Call) (when : Cancellation)
    (behave : σ → (op : Collaborator) → Option op.Answer × σ) (s : σ) :
    Result Collaborator (Option Nat × σ) :=
  call service (when matches .before) c (impatient behave) (when.limit, s)

/-- **Cancellation only cuts a call short**, as a law about the run of the service's operation that
is left alone and the client call `r` that is cancelled. -/
structure CutShort {σ τ : Type} (c : Service.Call) (when : Cancellation)
    (run : Run Collaborator σ (Except DirectoryError User)) (r : Result Collaborator τ) : Prop where
  /-- The collaborators that are asked are the first of those that would have been: none of them, or
  those up to the one that the call waited for. -/
  asked : r.asked = when.cut run.asked
  beginning : r.asked <+: run.asked
  /-- A call that is cancelled before it is over fails as cancelled. -/
  fired : when.Fires run.asked.length → r.outcome = some (.error .cancelled)
  /-- Any other call returns what the service returns, if it returns. -/
  spared : ¬when.Fires run.asked.length →
    r.outcome = run.result?.map (Except.mapError ClientError.ofDirectory)
  /-- And that is never that it was cancelled. -/
  genuine : ¬when.Fires run.asked.length → r.outcome ≠ some (.error .cancelled)
  /-- A call that is cancelled before it starts opens no span: all that happens is that the failure
  is logged. -/
  unstarted : when = .before → r.happenings = [.logged (failureEntry c.name .cancelled)]
  /-- A call that is cancelled while it waits does nothing more, except that the failure is
  logged. -/
  stopped : ∀ n, when = .waiting n → n < run.asked.length → ∃ before op,
    r.happenings = before ++ [.asked op] ++ [.logged (failureEntry c.name .cancelled)] ∧
      before ++ [.asked op] <+: run.happenings
  /-- An update that is cancelled while it waits for the verifier sends no patch. -/
  unpatched : ∀ user n token scope, c = .updateUser user → when = .waiting n →
    run.asked[n]? = some (.verify token scope) → ∀ op ∈ r.asked, op.isPatch = false

theorem ofDirectory_eq_cancelled_iff {e : DirectoryError} :
    ClientError.ofDirectory e = .cancelled ↔ e = .cancelled := by
  rcases e with _ | _ | _ | _ | _ | _ | ⟨_, - | _⟩ | _ | _ <;> simp [ClientError.ofDirectory]

namespace Result

variable {Op σ : Type} {operation : String} {r : Run Op σ (Except DirectoryError User)}

/-- The conversion of a failure asks nobody. -/
theorem asked_ofRun : (ofRun operation r).asked = r.asked := by
  rw [ofRun]
  split
  · rfl
  · rfl
  · rw [asked, List.filterMap_append]
    exact List.append_nil _

theorem outcome_ofRun :
    (ofRun operation r).outcome =
      (outcome? r.ending).map (Except.mapError ClientError.ofDirectory) := by
  rw [ofRun]
  rcases outcome? r.ending with - | e | user <;> rfl

/-- An interrupted run is a cancelled call, and the failure is logged. -/
theorem ofRun_of_interrupted (h : r.ending = .interrupted) :
    ofRun operation r =
      ⟨r.happenings ++ [.logged (failureEntry operation .cancelled)], some (.error .cancelled),
        r.state⟩ := by
  rw [ofRun, h]
  rfl

end Result

/-- What is returned of a run that was not interrupted is its result. -/
theorem outcome?_eq_result? {Op σ : Type} {r : Run Op σ (Except DirectoryError User)}
    (h : r.ending ≠ .interrupted) : outcome? r.ending = r.result? := by
  rw [Run.result?]
  rcases hr : r.ending with result | - | -
  · rfl
  · exact absurd hr h
  · rfl

variable {σ : Type} {service : Service} {c : Service.Call}
  {behave : σ → (op : Collaborator) → Option op.Answer × σ} {s : σ}

/-- A call that is left alone does not return that it was cancelled. -/
theorem result?_ne_cancelled :
    ((service.program c).run (patient behave) s).result?.map
      (Except.mapError ClientError.ofDirectory) ≠ some (.error .cancelled) := by
  intro h
  obtain ⟨result, hresult, hcancelled⟩ := Option.map_eq_some_iff.1 h
  rcases result with failure | user
  · have hfailure := ofDirectory_eq_cancelled_iff.1 (Except.error.inj hcancelled)
    have hconducts := Program.conducts_run (patient behave) (service.program c) s
    rw [Run.result?] at hresult
    split at hresult
    · next hending =>
      obtain rfl := Option.some.inj hresult
      rw [hending] at hconducts
      exact Service.ne_cancelled_of_conducts hconducts hfailure
    · cases hresult
  · cases hcancelled

/-- A call whose run is the one that is left alone. -/
theorem cutShort_of_spared {τ : Type} {when : Cancellation} {limited : Run Collaborator τ _}
    (hbefore : when ≠ .before)
    (hspared : ∀ n, when = .waiting n →
      ((service.program c).run (patient behave) s).asked.length ≤ n)
    (hhappenings : limited.happenings = ((service.program c).run (patient behave) s).happenings)
    (hending : limited.ending = ((service.program c).run (patient behave) s).ending) :
    CutShort c when ((service.program c).run (patient behave) s) (.ofRun c.name limited) := by
  have hasked : (Result.ofRun c.name limited).asked =
      ((service.program c).run (patient behave) s).asked := by
    rw [Result.asked_ofRun, Run.asked, hhappenings, Run.asked]
  have houtcome : (Result.ofRun c.name limited).outcome =
      ((service.program c).run (patient behave) s).result?.map
        (Except.mapError ClientError.ofDirectory) := by
    have hpatient : ((service.program c).run (patient behave) s).ending ≠ .interrupted :=
      Program.ending_run_patient_ne_interrupted (service.program c) s
    rw [Result.outcome_ofRun, hending, outcome?_eq_result? hpatient]
  have hfires : ¬when.Fires ((service.program c).run (patient behave) s).asked.length := by
    rcases when with - | - | n
    · exact id
    · exact absurd rfl hbefore
    · exact Nat.not_lt.2 (hspared n rfl)
  refine ⟨?_, ?_, fun h ↦ absurd h hfires, fun _ ↦ houtcome, fun _ ↦ ?_,
    fun h ↦ absurd h hbefore, ?_, ?_⟩
  · rw [hasked]
    rcases when with - | - | n
    · rfl
    · exact absurd rfl hbefore
    · exact (List.take_of_length_le ((hspared n rfl).trans (Nat.le_succ n))).symm
  · exact hasked ▸ List.prefix_rfl
  · rw [houtcome]
    exact result?_ne_cancelled
  · intro n hn hlt
    exact absurd (hspared n hn) (Nat.not_le.2 hlt)
  · intro user n token scope _ hn hop
    exact absurd (hspared n hn) (Nat.not_le.2 (List.getElem?_eq_some_iff.1 hop).1)

/-- A call that is cancelled while it waits. -/
theorem cutShort_of_stopped {n : Nat}
    (h : n < ((service.program c).run (patient behave) s).asked.length) :
    CutShort c (.waiting n) ((service.program c).run (patient behave) s)
      (.ofRun c.name ((service.program c).run (impatient behave) (some n, s))) := by
  obtain ⟨hending, hasked, before, op, hhappenings, hbegins⟩ := Program.run_cut h
  have htake : (Result.ofRun c.name
      ((service.program c).run (impatient behave) (some n, s))).asked =
        ((service.program c).run (patient behave) s).asked.take (n + 1) :=
    Result.asked_ofRun.trans hasked
  refine ⟨htake, ?_, fun _ ↦ ?_, fun hn ↦ absurd h hn, fun hn ↦ absurd h hn, nofun, ?_, ?_⟩
  · rw [htake]
    exact List.take_prefix _ _
  · rw [Result.ofRun_of_interrupted hending]
  · rintro m ⟨⟩ -
    refine ⟨before, op, ?_, hbegins⟩
    rw [Result.ofRun_of_interrupted hending, hhappenings]
  · rintro user m token scope rfl ⟨⟩ hop
    rw [Program.asked_run] at hop
    rw [htake, Program.asked_run]
    exact Service.not_isPatch_of_mem_take (Program.conducts_run (patient behave) _ s) hop

/-- **Cancellation only cuts a call short**, whatever the operation and its input, however the
collaborators behave, and whenever the caller cancels. -/
theorem call_cutShort (service : Service) (c : Service.Call) (when : Cancellation)
    (behave : σ → (op : Collaborator) → Option op.Answer × σ) (s : σ) :
    CutShort c when ((service.program c).run (patient behave) s)
      (callCancelled service c when behave s) := by
  rcases when with - | - | n
  · -- no limit is one that is not reached
    have hnever : ∀ m ∈ (none : Option Nat),
        ((service.program c).run (patient behave) s).asked.length ≤ m := nofun
    obtain ⟨hhappenings, hending⟩ := Program.run_outlasted hnever
    exact cutShort_of_spared nofun nofun hhappenings hending
  · exact ⟨rfl, List.nil_prefix, fun _ ↦ rfl, fun h ↦ absurd trivial h, fun h ↦ absurd trivial h,
      fun _ ↦ rfl, nofun, nofun⟩
  · by_cases h : n < ((service.program c).run (patient behave) s).asked.length
    · exact cutShort_of_stopped h
    · have hspared : ∀ m ∈ some n,
          ((service.program c).run (patient behave) s).asked.length ≤ m := by
        rintro m ⟨⟩
        exact Nat.le_of_not_lt h
      obtain ⟨hhappenings, hending⟩ := Program.run_outlasted hspared
      exact cutShort_of_spared nofun (fun m hm ↦ by cases hm; exact Nat.le_of_not_lt h) hhappenings
        hending

end Client

end AccountDirectory
