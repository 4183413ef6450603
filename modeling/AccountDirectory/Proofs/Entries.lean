import AccountDirectory.Assembly

/-!
# Which entries a program writes

`Program.Writes P p` says that every entry that `p` can write to the log satisfies `P`, whoever
replies. It is a recursion on the program, so it is shown of a composed program part by part, and it
holds of the log of every run (`Writes.of_logged`).

The interface does not matter: a program that is done by adapters writes what it writes itself and
what its adapters write (`Writes.expand`).
-/

namespace AccountDirectory.Program

variable {Op Op' : Type} {Answer : Op → Type} {Answer' : Op' → Type} {α β ε : Type}
  {P : LogEntry → Prop}

/-- **The program writes** only entries that satisfy `P`. -/
def Writes (P : LogEntry → Prop) : Program Op Answer α → Prop
  | .done _ => True
  | .note entry rest => P entry ∧ rest.Writes P
  | .ask _ next => ∀ a, (next a).Writes P

theorem Writes.bind {p : Program Op Answer α} {f : α → Program Op Answer β} (hp : p.Writes P)
    (hf : ∀ a, (f a).Writes P) : (p >>= f).Writes P := by
  show (p.bind f).Writes P
  induction p with
  | done a => exact hf a
  | note entry rest ih => exact ⟨hp.1, ih hp.2⟩
  | ask op next ih => exact fun a ↦ ih a (hp a)

theorem writes_log {entry : LogEntry} (h : P entry) :
    (log entry : Program Op Answer Unit).Writes P :=
  ⟨h, trivial⟩

theorem writes_call (op : Op) : (call op : Program Op Answer _).Writes P := fun _ ↦ trivial

/-- What a run has logged was written by its program. -/
theorem Writes.of_logged {σ : Type} {respond : σ → (op : Op) → Reply (Answer op) × σ}
    {p : Program Op Answer α} (h : p.Writes P) {s : σ} {entry : LogEntry}
    (he : .logged entry ∈ (p.run respond s).happenings) : P entry := by
  induction p generalizing s with
  | done a => exact absurd he List.not_mem_nil
  | note first rest ih =>
    obtain hfirst | hrest := List.mem_cons.1 he
    · cases hfirst
      exact h.1
    · exact ih h.2 hrest
  | ask op next ih =>
    rw [run] at he
    split at he
    · obtain hfirst | hrest := List.mem_cons.1 he
      · cases hfirst
      · exact ih _ (h _) hrest
    · cases List.mem_singleton.1 he
    · cases List.mem_singleton.1 he

theorem Writes.expand {p : Program Op Answer α}
    {adapter : (op : Op) → Program Op' Answer' (Answer op)} (hp : p.Writes P)
    (hadapter : ∀ op, (adapter op).Writes P) : (p.expand adapter).Writes P := by
  induction p with
  | done a => trivial
  | note entry rest ih => exact ⟨hp.1, ih hp.2⟩
  | ask op next ih => exact (hadapter op).bind fun a ↦ ih a (hp a)

/-! ### Steps that may fail -/

/-- A step that may fail writes what its program writes. -/
def WritesT (P : LogEntry → Prop) (x : ExceptT ε (Program Op Answer) α) : Prop := x.run.Writes P

theorem writesT_done {x : Except ε α} :
    WritesT P (ExceptT.mk (.done x) : ExceptT ε (Program Op Answer) α) :=
  trivial

theorem writesT_pure {a : α} : WritesT P (pure a : ExceptT ε (Program Op Answer) α) := trivial

theorem writesT_throw {failure : ε} :
    WritesT P (throw failure : ExceptT ε (Program Op Answer) α) :=
  trivial

theorem WritesT.bind {x : ExceptT ε (Program Op Answer) α}
    {f : α → ExceptT ε (Program Op Answer) β} (hx : WritesT P x) (hf : ∀ a, WritesT P (f a)) :
    WritesT P (x >>= f) := by
  refine Writes.bind (f := ExceptT.bindCont f) hx fun r ↦ ?_
  cases r with
  | error failure => trivial
  | ok a => exact hf a

theorem Writes.lift {p : Program Op Answer α} (hp : p.Writes P) :
    WritesT P (ExceptT.lift p : ExceptT ε (Program Op Answer) α) := by
  show Writes P (Except.ok <$> p)
  rw [map_eq_pure_bind]
  exact hp.bind fun _ ↦ trivial

/-- Entries that are written one after the other. -/
theorem writesT_forM {entries : List LogEntry} {write : LogEntry → ExceptT ε (Program Op Answer) Unit}
    (h : ∀ entry ∈ entries, WritesT P (write entry)) : WritesT P (entries.forM write) := by
  induction entries with
  | nil => exact writesT_pure
  | cons entry rest ih =>
    obtain ⟨hentry, hrest⟩ := List.forall_mem_cons.1 h
    exact hentry.bind fun _ ↦ ih hrest

end AccountDirectory.Program
