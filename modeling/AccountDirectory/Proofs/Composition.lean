import AccountDirectory.Proofs.Dialogue

/-!
# Dialogues of composed programs

A program is put together in two ways: one program after another, and a program over one interface
whose operations are done by programs over another. In both cases the dialogue of the whole falls
apart into the dialogues of the parts.

* `conducts_bind_iff` cuts the dialogue of one program after another where the first one ends.
* `conducts_expand_iff` reads the dialogue of an expanded program as a dialogue over the first
  interface in which each exchange was **enacted** by a run of its adapter. So a law about the
  dialogues of a program carries over to whatever does its operations.

**What holds of all replies.** `Obeys allowed post p` says that `p` only asks for allowed operations
and only ends with results that satisfy `post`, whoever replies. It is a recursion on the program,
so it is shown of a composed program part by part.
-/

namespace AccountDirectory.Program

variable {Op : Type} {Answer : Op → Type} {α β : Type}

/-! ### One program after another -/

/-- Two endings without a result, of the same kind. -/
inductive Stops : Ending α → Ending β → Prop
  | interrupted : Stops .interrupted .interrupted
  | stalled : Stops .stalled .stalled

/-- A reply that breaks a program off breaks off every other one in the same way. -/
theorem Breaks.exists_stops {γ : Type} {r : Reply γ} {e : Ending β} (h : Breaks r e) :
    ∃ e' : Ending α, Breaks r e' ∧ Stops e' e := by
  cases h with
  | interrupted => exact ⟨_, .interrupted, .interrupted⟩
  | never => exact ⟨_, .never, .stalled⟩

theorem Breaks.of_stops {γ : Type} {r : Reply γ} {e : Ending α} {e' : Ending β} (h : Breaks r e)
    (hs : Stops e e') : Breaks r e' := by
  cases hs with
  | interrupted =>
    cases h
    exact .interrupted
  | stalled =>
    cases h
    exact .never

/-- **The dialogue of one program after another.** The first one stops and so does the whole, or it
ends with a result and the dialogue goes on with that of the second. -/
theorem conducts_bind_iff {p : Program Op Answer α} {f : α → Program Op Answer β}
    {d : List (Exchange Op Answer)} {e : Ending β} :
    Conducts (p >>= f) d e ↔ (∃ e', Conducts p d e' ∧ Stops e' e) ∨
      ∃ a d₁ d₂, d = d₁ ++ d₂ ∧ Conducts p d₁ (.finished a) ∧ Conducts (f a) d₂ e := by
  show Conducts (p.bind f) d e ↔ _
  induction p generalizing d with
  | done a =>
    constructor
    · exact fun h ↦ .inr ⟨a, [], d, rfl, .done a, h⟩
    · rintro (⟨e', h, hs⟩ | ⟨a', d₁, d₂, rfl, h, hf⟩)
      · obtain ⟨-, rfl⟩ := conducts_done_iff.1 h
        cases hs
      · obtain ⟨rfl, he⟩ := conducts_done_iff.1 h
        obtain rfl := Ending.finished.inj he
        exact hf
  | note entry rest ih =>
    rw [bind, conducts_note_iff, ih]
    simp only [conducts_note_iff]
  | ask op next ih =>
    rw [bind, conducts_ask_iff]
    constructor
    · rintro (⟨r, rfl, hr⟩ | ⟨a, d', rfl, h⟩)
      · obtain ⟨e', hr', hs⟩ := hr.exists_stops (α := α)
        exact .inl ⟨e', .broken op hr', hs⟩
      · obtain ⟨e', h, hs⟩ | ⟨b, d₁, d₂, rfl, h, hf⟩ := (ih a).1 h
        · exact .inl ⟨e', .ask op a h, hs⟩
        · exact .inr ⟨b, ⟨op, .answer a⟩ :: d₁, d₂, rfl, .ask op a h, hf⟩
    · rintro (⟨e', h, hs⟩ | ⟨b, d₁, d₂, rfl, h, hf⟩)
      · obtain ⟨r, rfl, hr⟩ | ⟨a, d', rfl, hn⟩ := conducts_ask_iff.1 h
        · exact .inl ⟨r, rfl, hr.of_stops hs⟩
        · exact .inr ⟨a, d', rfl, (ih a).2 (.inl ⟨e', hn, hs⟩)⟩
      · obtain ⟨r, rfl, hr⟩ | ⟨a, d', rfl, hn⟩ := conducts_ask_iff.1 h
        · cases hr
        · exact .inr ⟨a, d' ++ d₂, rfl, (ih a).2 (.inr ⟨b, d', d₂, rfl, hn, hf⟩)⟩

/-- A result is that of the second program, after one of the first. -/
theorem conducts_bind_finished_iff {p : Program Op Answer α} {f : α → Program Op Answer β}
    {d : List (Exchange Op Answer)} {b : β} :
    Conducts (p >>= f) d (.finished b) ↔
      ∃ a d₁ d₂, d = d₁ ++ d₂ ∧ Conducts p d₁ (.finished a) ∧ Conducts (f a) d₂ (.finished b) := by
  rw [conducts_bind_iff]
  constructor
  · rintro (⟨_, -, hs⟩ | h)
    · cases hs
    · exact h
  · exact .inr

/-- **A program that finished is read off its dialogue**: of two beginnings of one dialogue that it
conducts, the first up to a result, the other is the same, with that result. -/
theorem Conducts.unique {p : Program Op Answer α} {d d₁ d₂ : List (Exchange Op Answer)} {a : α}
    {e : Ending α} (h₁ : Conducts p d₁ (.finished a)) (h₂ : Conducts p d₂ e) (hd₁ : d₁ <+: d)
    (hd₂ : d₂ <+: d) : d₂ = d₁ ∧ e = .finished a := by
  induction p generalizing d d₁ d₂ with
  | done b =>
    obtain ⟨rfl, he⟩ := conducts_done_iff.1 h₁
    obtain ⟨rfl, rfl⟩ := conducts_done_iff.1 h₂
    exact ⟨rfl, he.symm⟩
  | note entry rest ih => exact ih (conducts_note_iff.1 h₁) (conducts_note_iff.1 h₂) hd₁ hd₂
  | ask op next ih =>
    obtain ⟨r, rfl, hr⟩ | ⟨b, d₁, rfl, hn₁⟩ := conducts_ask_iff.1 h₁
    · cases hr
    obtain ⟨t, rfl⟩ := hd₁
    obtain ⟨r, rfl, hr⟩ | ⟨c, d₂, rfl, hn₂⟩ := conducts_ask_iff.1 h₂
    · -- both begin with the same exchange, and it was answered
      obtain ⟨hx, -⟩ := List.cons_prefix_cons.1 hd₂
      cases hx
      cases hr
    · obtain ⟨hx, hd⟩ := List.cons_prefix_cons.1 hd₂
      cases hx
      obtain ⟨rfl, rfl⟩ := ih b hn₁ hn₂ (List.prefix_append _ t) hd
      exact ⟨rfl, rfl⟩

/-- **The dialogue opens** with one that the program conducts up to a result. -/
def Opens (p : Program Op Answer α) (d : List (Exchange Op Answer)) (a : α) : Prop :=
  ∃ d₁, d₁ <+: d ∧ Conducts p d₁ (.finished a)

/-- A dialogue that the program conducts does not open with another one. -/
theorem Conducts.eq_of_opens {p : Program Op Answer α} {d d' : List (Exchange Op Answer)} {a : α}
    {e : Ending α} (h : Conducts p d e) (ho : Opens p (d ++ d') a) : e = .finished a := by
  obtain ⟨d₁, hd, h₁⟩ := ho
  exact (h₁.unique h hd (List.prefix_append d d')).2

/-- So with what follows a dialogue that is conducted, there is one result to open with. -/
theorem Conducts.opens_iff {p : Program Op Answer α} {d d' : List (Exchange Op Answer)} {a b : α}
    (h : Conducts p d (.finished a)) : Opens p (d ++ d') b ↔ b = a := by
  constructor
  · intro ho
    exact (Ending.finished.inj (h.eq_of_opens ho)).symm
  · rintro rfl
    exact ⟨d, List.prefix_append d d', h⟩

/-- The ending with its result, if there is one, turned into another. -/
def Ending.map (g : α → β) : Ending α → Ending β
  | .finished a => .finished (g a)
  | .interrupted => .interrupted
  | .stalled => .stalled

theorem Stops.map_eq {e : Ending α} {e' : Ending β} (h : Stops e e') (g : α → β) :
    e.map g = e' := by
  cases h <;> rfl

theorem Stops.of_map {γ : Type} {e : Ending α} {g : α → γ} {e' : Ending β}
    (h : Stops (e.map g) e') : Stops e e' := by
  cases e with
  | finished => cases h
  | interrupted =>
    cases h
    exact .interrupted
  | stalled =>
    cases h
    exact .stalled

theorem Stops.trans {γ : Type} {e : Ending α} {e' : Ending β} {e'' : Ending γ} (h : Stops e e')
    (h' : Stops e' e'') : Stops e e'' := by
  cases h <;> cases h'
  · exact .interrupted
  · exact .stalled

/-- What comes after a program and asks nobody only turns the result into another. -/
theorem conducts_bind_silent {p : Program Op Answer α} {f : α → Program Op Answer β} {g : α → β}
    {d : List (Exchange Op Answer)} {e : Ending β}
    (hf : ∀ {a d e}, Conducts (f a) d e → d = [] ∧ e = .finished (g a))
    (h : Conducts (p >>= f) d e) : ∃ e', Conducts p d e' ∧ e = e'.map g := by
  obtain ⟨e', hp, hs⟩ | ⟨a, d₁, d₂, rfl, hp, hn⟩ := conducts_bind_iff.1 h
  · exact ⟨e', hp, (hs.map_eq g).symm⟩
  · obtain ⟨rfl, rfl⟩ := hf hn
    exact ⟨_, by rwa [List.append_nil], rfl⟩

/-! ### Operations done by programs -/

variable {Op' : Type} {Answer' : Op' → Type}

/-- **Enacted dialogues.** The second dialogue is that of the adapter's runs by which the operations
of the first were done, one after the other. -/
inductive Enacts (adapter : (op : Op) → Program Op' Answer' (Answer op)) :
    List (Exchange Op Answer) → List (Exchange Op' Answer') → Prop
  | nil : Enacts adapter [] []
  | answered {op : Op} {a : Answer op} {D d₁ d₂} (h : Conducts (adapter op) d₁ (.finished a))
    (rest : Enacts adapter D d₂) : Enacts adapter (⟨op, .answer a⟩ :: D) (d₁ ++ d₂)
  /-- The adapter stops, so its operation gets no answer. -/
  | broken {op : Op} {r : Reply (Answer op)} {d e} (h : Conducts (adapter op) d e)
    (hr : Breaks r e) : Enacts adapter [⟨op, r⟩] d

variable {adapter : (op : Op) → Program Op' Answer' (Answer op)}

theorem enacts_nil_iff {d : List (Exchange Op' Answer')} : Enacts adapter [] d ↔ d = [] := by
  constructor
  · intro h
    cases h
    rfl
  · rintro rfl
    exact .nil

/-- An exchange that stopped was the last one. -/
theorem Enacts.of_breaks {op : Op} {r : Reply (Answer op)} {D : List (Exchange Op Answer)}
    {d : List (Exchange Op' Answer')} {e : Ending β} (h : Enacts adapter (⟨op, r⟩ :: D) d)
    (hr : Breaks r e) : D = [] ∧ ∃ e', Conducts (adapter op) d e' ∧ Stops e' e := by
  cases h with
  | answered => cases hr
  | broken h hr' =>
    refine ⟨rfl, _, h, ?_⟩
    cases hr with
    | interrupted =>
      cases hr'
      exact .interrupted
    | never =>
      cases hr'
      exact .stalled

/-- An answered exchange was enacted first, and the others after it. -/
theorem enacts_answer_cons_iff {op : Op} {a : Answer op} {D : List (Exchange Op Answer)}
    {d : List (Exchange Op' Answer')} :
    Enacts adapter (⟨op, .answer a⟩ :: D) d ↔
      ∃ d₁ d₂, d = d₁ ++ d₂ ∧ Conducts (adapter op) d₁ (.finished a) ∧ Enacts adapter D d₂ := by
  constructor
  · intro h
    cases h with
    | answered h rest => exact ⟨_, _, rfl, h, rest⟩
    | broken _ hr => cases hr
  · rintro ⟨d₁, d₂, rfl, h, rest⟩
    exact .answered h rest

/-- Every answer of an enacted dialogue is the result of a run of the adapter. -/
theorem Enacts.exists_of_mem {op : Op} {a : Answer op} {D : List (Exchange Op Answer)}
    {d : List (Exchange Op' Answer')} (h : Enacts adapter D d) (hx : ⟨op, .answer a⟩ ∈ D) :
    ∃ d', Conducts (adapter op) d' (.finished a) := by
  induction h with
  | nil => cases hx
  | answered hc _ ih =>
    obtain heq | hx := List.mem_cons.1 hx
    · cases heq
      exact ⟨_, hc⟩
    · exact ih hx
  | broken _ hr =>
    cases List.mem_singleton.1 hx
    cases hr

/-- **The dialogue of an expanded program** enacts a dialogue of the program. -/
theorem conducts_expand_iff {p : Program Op Answer α} {d : List (Exchange Op' Answer')}
    {e : Ending α} :
    Conducts (p.expand adapter) d e ↔ ∃ D, Conducts p D e ∧ Enacts adapter D d := by
  induction p generalizing d with
  | done a =>
    rw [expand, conducts_done_iff]
    constructor
    · rintro ⟨rfl, rfl⟩
      exact ⟨[], .done a, .nil⟩
    · rintro ⟨D, h, hD⟩
      obtain ⟨rfl, rfl⟩ := conducts_done_iff.1 h
      exact ⟨enacts_nil_iff.1 hD, rfl⟩
  | note entry rest ih =>
    rw [expand, conducts_note_iff, ih]
    simp only [conducts_note_iff]
  | ask op next ih =>
    show Conducts (adapter op >>= fun a ↦ (next a).expand adapter) d e ↔ _
    rw [conducts_bind_iff]
    constructor
    · rintro (⟨e', h, hs⟩ | ⟨a, d₁, d₂, rfl, h, hf⟩)
      · -- the adapter stopped, and its operation is the one that got no answer
        cases hs with
        | interrupted =>
          exact ⟨[⟨op, .interrupted⟩], .broken op .interrupted, .broken h .interrupted⟩
        | stalled => exact ⟨[⟨op, .never⟩], .broken op .never, .broken h .never⟩
      · obtain ⟨D, hD, hd⟩ := (ih a).1 hf
        exact ⟨⟨op, .answer a⟩ :: D, .ask op a hD, .answered h hd⟩
    · rintro ⟨D, hD, hd⟩
      obtain ⟨r, rfl, hr⟩ | ⟨a, D', rfl, hn⟩ := conducts_ask_iff.1 hD
      · exact .inl (hd.of_breaks hr).2
      · obtain ⟨d₁, d₂, rfl, h, hd⟩ := enacts_answer_cons_iff.1 hd
        exact .inr ⟨a, d₁, d₂, rfl, h, (ih a).2 ⟨D', hn, hd⟩⟩

/-! ### What holds of all replies -/

/-- **The program obeys**: it asks for allowed operations only, and each result that it can end with
satisfies `post`. -/
def Obeys (allowed : Op → Prop) (post : α → Prop) : Program Op Answer α → Prop
  | .done a => post a
  | .note _ rest => rest.Obeys allowed post
  | .ask op next => allowed op ∧ ∀ a, (next a).Obeys allowed post

variable {allowed : Op → Prop} {post : α → Prop} {after : β → Prop}

theorem Obeys.bind {p : Program Op Answer α} {f : α → Program Op Answer β}
    (hp : p.Obeys allowed post) (hf : ∀ a, post a → (f a).Obeys allowed after) :
    (p >>= f).Obeys allowed after := by
  show (p.bind f).Obeys allowed after
  induction p with
  | done a => exact hf a hp
  | note entry rest ih => exact ih hp
  | ask op next ih => exact ⟨hp.1, fun a ↦ ih a (hp.2 a)⟩

/-- What obeys a law obeys a weaker one. -/
theorem Obeys.imp {allowed' : Op → Prop} {post' : α → Prop} {p : Program Op Answer α}
    (h : p.Obeys allowed post) (hallowed : ∀ op, allowed op → allowed' op)
    (hpost : ∀ a, post a → post' a) : p.Obeys allowed' post' := by
  induction p with
  | done a => exact hpost a h
  | note entry rest ih => exact ih h
  | ask op next ih => exact ⟨hallowed op h.1, fun a ↦ ih a (h.2 a)⟩

/-- What obeys does so in every dialogue. -/
theorem Conducts.obeys {p : Program Op Answer α} {d : List (Exchange Op Answer)} {e : Ending α}
    (h : Conducts p d e) (hp : p.Obeys allowed post) :
    (∀ x ∈ d, allowed x.op) ∧ ∀ a, e = .finished a → post a := by
  induction h with
  | done a =>
    refine ⟨fun _ hx ↦ absurd hx List.not_mem_nil, fun b hb ↦ ?_⟩
    obtain rfl := Ending.finished.inj hb
    exact hp
  | note _ _ ih => exact ih hp
  | ask op a _ ih =>
    obtain ⟨hd, he⟩ := ih (hp.2 a)
    exact ⟨List.forall_mem_cons.2 ⟨hp.1, hd⟩, he⟩
  | broken op hr =>
    refine ⟨fun x hx ↦ ?_, fun b hb ↦ ?_⟩
    · rw [List.mem_singleton.1 hx]
      exact hp.1
    · subst hb
      cases hr

/-- **Every dialogue of the program** satisfies `P`. -/
def Keeps (P : List (Exchange Op Answer) → Prop) (p : Program Op Answer α) : Prop :=
  ∀ d e, Conducts p d e → P d

/-- What holds of parts holds of the whole, if it is kept where two dialogues are put together. -/
theorem Keeps.bind {P : List (Exchange Op Answer) → Prop} {p : Program Op Answer α}
    {f : α → Program Op Answer β} (happend : ∀ d₁ d₂, P d₁ → P d₂ → P (d₁ ++ d₂))
    (hp : p.Keeps P) (hf : ∀ a, (f a).Keeps P) : (p >>= f).Keeps P := by
  intro d e h
  obtain ⟨e', h, -⟩ | ⟨a, d₁, d₂, rfl, h₁, h₂⟩ := conducts_bind_iff.1 h
  · exact hp d e' h
  · exact happend d₁ d₂ (hp d₁ _ h₁) (hf a d₂ e h₂)

/-! ### Steps that may fail -/

section ExceptT

variable {ε : Type}

/-- **The dialogue of one step after another.** The first one stops, or it fails and so does the
whole, or the dialogue goes on with that of the second. -/
theorem conducts_bindT_iff {x : ExceptT ε (Program Op Answer) α}
    {f : α → ExceptT ε (Program Op Answer) β} {d : List (Exchange Op Answer)}
    {e : Ending (Except ε β)} :
    Conducts (x >>= f).run d e ↔ (∃ e', Conducts x.run d e' ∧ Stops e' e) ∨
      (∃ b, Conducts x.run d (.finished (.error b)) ∧ e = .finished (.error b)) ∨
        ∃ a d₁ d₂, d = d₁ ++ d₂ ∧ Conducts x.run d₁ (.finished (.ok a)) ∧
          Conducts (f a).run d₂ e := by
  show Conducts (x.run >>= ExceptT.bindCont f) d e ↔ _
  rw [conducts_bind_iff]
  refine or_congr_right ⟨?_, ?_⟩
  · rintro ⟨b | a, d₁, d₂, rfl, hx, hf⟩
    · obtain ⟨rfl, rfl⟩ := conducts_done_iff.1 hf
      exact .inl ⟨b, by rwa [List.append_nil], rfl⟩
    · exact .inr ⟨a, d₁, d₂, rfl, hx, hf⟩
  · rintro (⟨b, hx, rfl⟩ | ⟨a, d₁, d₂, rfl, hx, hf⟩)
    · exact ⟨.error b, d, [], (List.append_nil d).symm, hx, .done _⟩
    · exact ⟨.ok a, d₁, d₂, rfl, hx, hf⟩

/-- A result comes from the results of both steps. -/
theorem conducts_bindT_ok_iff {x : ExceptT ε (Program Op Answer) α}
    {f : α → ExceptT ε (Program Op Answer) β} {d : List (Exchange Op Answer)} {b : β} :
    Conducts (x >>= f).run d (.finished (.ok b)) ↔
      ∃ a d₁ d₂, d = d₁ ++ d₂ ∧ Conducts x.run d₁ (.finished (.ok a)) ∧
        Conducts (f a).run d₂ (.finished (.ok b)) := by
  rw [conducts_bindT_iff]
  constructor
  · rintro (⟨_, -, hs⟩ | ⟨_, -, he⟩ | h)
    · cases hs
    · cases he
    · exact h
  · exact fun h ↦ .inr (.inr h)

/-- A check that passes says nothing. -/
theorem conducts_check_bind_ok_iff {x : Except ε α} {f : α → ExceptT ε (Program Op Answer) β}
    {d : List (Exchange Op Answer)} {b : β} :
    Conducts (ExceptT.mk (.done x) >>= f).run d (.finished (.ok b)) ↔
      ∃ a, x = .ok a ∧ Conducts (f a).run d (.finished (.ok b)) := by
  rcases x with failure | a
  · constructor
    · intro h
      cases h
    · rintro ⟨_, ⟨⟩, -⟩
  · constructor
    · exact fun h ↦ ⟨a, rfl, h⟩
    · rintro ⟨_, ⟨⟩, h⟩
      exact h

/-- A step that may fail obeys if its results satisfy `post`; its failures are free. -/
def ObeysT (allowed : Op → Prop) (post : α → Prop) (x : ExceptT ε (Program Op Answer) α) : Prop :=
  x.run.Obeys allowed fun r ↦ ∀ a, r = .ok a → post a

theorem obeysT_pure {a : α} (h : post a) :
    ObeysT allowed post (pure a : ExceptT ε (Program Op Answer) α) := by
  intro a' ha
  rwa [← Except.ok.inj ha]

theorem obeysT_throw {failure : ε} :
    ObeysT allowed post (throw failure : ExceptT ε (Program Op Answer) α) :=
  fun _ h ↦ nomatch h

theorem ObeysT.bind {x : ExceptT ε (Program Op Answer) α}
    {f : α → ExceptT ε (Program Op Answer) β} (hx : ObeysT allowed post x)
    (hf : ∀ a, post a → ObeysT allowed after (f a)) : ObeysT allowed after (x >>= f) := by
  refine Obeys.bind (f := ExceptT.bindCont f) hx fun r hr ↦ ?_
  cases r with
  | error failure => exact fun _ h ↦ nomatch h
  | ok a => exact hf a (hr a rfl)

/-- A check asks nobody. -/
theorem ObeysT.check_bind {x : Except ε α} {f : α → ExceptT ε (Program Op Answer) β}
    (hf : ∀ a, ObeysT allowed after (f a)) : ObeysT allowed after (ExceptT.mk (.done x) >>= f) := by
  cases x with
  | error failure => exact obeysT_throw
  | ok a => exact hf a

theorem Obeys.lift {p : Program Op Answer α} (hp : p.Obeys allowed post) :
    ObeysT allowed post (ExceptT.lift p : ExceptT ε (Program Op Answer) α) := by
  show Obeys allowed _ (Except.ok <$> p)
  rw [map_eq_pure_bind]
  refine hp.bind fun a ha a' he ↦ ?_
  rwa [← Except.ok.inj he]

theorem Keeps.bindT {P : List (Exchange Op Answer) → Prop} {x : ExceptT ε (Program Op Answer) α}
    {f : α → ExceptT ε (Program Op Answer) β} (hnil : P [])
    (happend : ∀ d₁ d₂, P d₁ → P d₂ → P (d₁ ++ d₂)) (hx : x.run.Keeps P)
    (hf : ∀ a, (f a).run.Keeps P) : (x >>= f).run.Keeps P := by
  refine Keeps.bind (f := ExceptT.bindCont f) happend hx fun r d e h ↦ ?_
  rcases r with failure | a
  · obtain ⟨rfl, -⟩ := conducts_done_iff.1 h
    exact hnil
  · exact hf a d e h

end ExceptT

end AccountDirectory.Program
