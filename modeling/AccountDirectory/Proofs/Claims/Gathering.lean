import AccountDirectory.Proofs.Claims
import AccountDirectory.Proofs.Text.Words
import Mathlib.Data.List.Forall2
import Mathlib.Data.List.Induction

/-!
# What a builder of claims gathers

Claims are made in steps (`Claims.Builder.Step`). `Gathers` says which entries come together in the
course of them: the list with which the scopes were set last, and then what each later step adds.

`build_ofSteps` is the law of the builder. The scopes are the first mentions of these entries, so a
scope is granted if and only if it is one of them, and the subject is the one that was set last.
-/

namespace AccountDirectory.Claims.Builder

/-- A step of making claims. -/
inductive Step
  | subject (subject : String)
  /-- Sets the scopes, in place of those before. -/
  | scopes (scopes : List String)
  | addScopes (scopes : List String)
  | addScopeText (text : String)

/-- Takes a step. -/
def take (b : Builder) : Step → Builder
  | .subject subject => b.withSubject subject
  | .scopes scopes => b.withScopes scopes
  | .addScopes scopes => b.addScopes scopes
  | .addScopeText text => b.addScopeText text

/-- The builder that has taken these steps. -/
def ofSteps (steps : List Step) : Builder := steps.foldl take {}

/-! ### What comes together -/

/-- **What a step adds** to the entries before it. One that sets the scopes adds nothing to them. -/
inductive Step.Adds : Step → List String → Prop
  | subject (subject : String) : Adds (.subject subject) []
  | scopes (scopes : List String) : Adds (.addScopes scopes) scopes
  /-- Each word of a text is an entry. -/
  | words {text words} (h : Text.SplitsInto text.toList (words.map String.toList)) :
    Adds (.addScopeText text) words

/-- The list with which scopes are set last, none if they never are, and the steps after that. -/
inductive SetLast : List Step → List String → List Step → Prop
  | never (steps : List Step) : SetLast steps [] steps
  | last (before : List Step) (scopes : List String) (later : List Step) :
    SetLast (before ++ .scopes scopes :: later) scopes later

/-- **The entries that come together**: the list that was set last, followed by what each later step
adds to it. -/
def Gathers (steps : List Step) (entries : List String) : Prop :=
  ∃ start later added, SetLast steps start later ∧ List.Forall₂ Step.Adds later added ∧
    entries = start ++ added.flatten

/-- **The subject that is set last**, or the empty one. -/
inductive EndsWithSubject : List Step → String → Prop
  | never {steps} (h : ∀ s, .subject s ∉ steps) : EndsWithSubject steps ""
  | last (before : List Step) {s later} (h : ∀ s, .subject s ∉ later) :
    EndsWithSubject (before ++ .subject s :: later) s

/-! ### The builder gathers -/

variable {b : Builder} {step : Step} {steps later : List Step} {entries : List String}

theorem take_addScopeText {text : String} {words : List String}
    (h : Text.SplitsInto text.toList (words.map String.toList)) :
    b.take (.addScopeText text) = b.addScopes words := by
  rw [take, addScopeText, Text.words_eq_iff.2 h, Text.map_ofList_map_toList]

theorem scopes_take_of_adds {added : List String} (h : step.Adds added) :
    (b.take step).scopes = b.scopes ++ added := by
  cases h with
  | subject subject => exact (List.append_nil _).symm
  | scopes scopes => rfl
  | words h =>
    rw [take_addScopeText h]
    rfl

/-- What each step adds is put behind the scopes. -/
theorem scopes_foldl_take {added : List (List String)} (h : List.Forall₂ Step.Adds later added) :
    (later.foldl take b).scopes = b.scopes ++ added.flatten := by
  induction h generalizing b with
  | nil => exact (List.append_nil _).symm
  | cons hstep _ ih =>
    rw [List.foldl_cons, ih, scopes_take_of_adds hstep, List.flatten_cons, List.append_assoc]

/-- **What comes together is what the builder has gathered.** -/
theorem Gathers.scopes_eq (h : Gathers steps entries) : (ofSteps steps).scopes = entries := by
  obtain ⟨start, later, added, hset, hadds, rfl⟩ := h
  cases hset with
  | never => exact scopes_foldl_take hadds
  | last before scopes later =>
    rw [ofSteps, List.foldl_append, List.foldl_cons, scopes_foldl_take hadds]
    rfl

theorem Gathers.concat {added : List String} (h : Gathers steps entries) (hstep : step.Adds added) :
    Gathers (steps ++ [step]) (entries ++ added) := by
  obtain ⟨start, later, before, hset, hadds, rfl⟩ := h
  have hlater : List.Forall₂ Step.Adds (later ++ [step]) (before ++ [added]) :=
    List.rel_append hadds (.cons hstep .nil)
  refine ⟨start, later ++ [step], before ++ [added], ?_, hlater, ?_⟩
  · cases hset with
    | never => exact .never _
    | last front =>
      rw [List.append_assoc, List.cons_append]
      exact .last ..
  · rw [List.flatten_concat, List.append_assoc]

/-- Whatever the steps are, entries come together. -/
theorem exists_gathers (steps : List Step) : ∃ entries, Gathers steps entries := by
  induction steps using List.reverseRecOn with
  | nil => exact ⟨[], [], [], [], .never [], .nil, rfl⟩
  | append_singleton steps step ih =>
    obtain ⟨entries, h⟩ := ih
    cases step with
    | subject subject => exact ⟨_, h.concat (.subject subject)⟩
    | scopes scopes =>
      exact ⟨scopes, scopes, [], [], .last steps scopes [], .nil, (List.append_nil _).symm⟩
    | addScopes scopes => exact ⟨_, h.concat (.scopes scopes)⟩
    | addScopeText text =>
      have hsplits : Text.SplitsInto text.toList
          (((Text.words text.toList).map String.ofList).map String.toList) := by
        rw [Text.map_toList_map_ofList]
        exact Text.words_eq_iff.1 rfl
      exact ⟨_, h.concat (.words hsplits)⟩

/-! ### The subject -/

theorem subject_take (h : ∀ s, step ≠ .subject s) : (b.take step).subject = b.subject := by
  cases step with
  | subject s => exact absurd rfl (h s)
  | _ => rfl

theorem EndsWithSubject.concat {s : String} (h : EndsWithSubject steps s)
    (hstep : ∀ s, step ≠ .subject s) : EndsWithSubject (steps ++ [step]) s := by
  have hlast : ∀ {later : List Step}, (∀ s, .subject s ∉ later) →
      ∀ s, .subject s ∉ later ++ [step] := by
    intro later hlater s hs
    obtain hs | hs := List.mem_append.1 hs
    · exact hlater s hs
    · exact hstep s (List.mem_singleton.1 hs).symm
  cases h with
  | never h => exact .never (hlast h)
  | last before h =>
    rw [List.append_assoc, List.cons_append]
    exact .last before (hlast h)

/-- The subject of the claims is the one that was set last. -/
theorem endsWithSubject_build (steps : List Step) :
    EndsWithSubject steps (ofSteps steps).build.subject := by
  induction steps using List.reverseRecOn with
  | nil => exact .never nofun
  | append_singleton steps step ih =>
    rw [ofSteps, List.foldl_concat, ← ofSteps, build]
    by_cases hstep : ∃ s, step = .subject s
    · obtain ⟨s, rfl⟩ := hstep
      exact .last steps nofun
    · rw [not_exists] at hstep
      rw [subject_take hstep]
      exact ih.concat hstep

/-! ### The claims that are built -/

/-- **What the builder builds.** Entries come together in one way. The scopes are their first
mentions, each once; one is granted if it is among them, and the subject is the one that was set
last. -/
theorem build_ofSteps (steps : List Step) :
    ∃ entries, (∀ entries', Gathers steps entries' ↔ entries' = entries) ∧
      IsFirstMentions entries (ofSteps steps).build.scopes ∧
      (ofSteps steps).build.scopes.Nodup ∧
      (∀ s, (ofSteps steps).build.hasScope s ↔ s ∈ entries) ∧
      EndsWithSubject steps (ofSteps steps).build.subject := by
  obtain ⟨entries, h⟩ := exists_gathers steps
  have hfirst : IsFirstMentions entries (ofSteps steps).build.scopes := by
    rw [build, h.scopes_eq]
    exact isFirstMentions_firstMentions entries
  refine ⟨entries, fun entries' ↦ ⟨fun h' ↦ h'.scopes_eq.symm.trans h.scopes_eq, ?_⟩, hfirst,
    hfirst.nodup, fun s ↦ ?_, endsWithSubject_build steps⟩
  · rintro rfl
    exact h
  · rw [hasScope, List.contains_iff_mem]
    exact hfirst.mem_iff s

end AccountDirectory.Claims.Builder
