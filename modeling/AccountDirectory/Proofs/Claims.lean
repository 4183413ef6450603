import AccountDirectory.Claims
import Mathlib.Data.List.Sort

/-!
# First mentions

The scopes of claims are the entries that were given, each once, in the order in which they are
first mentioned. `IsFirstMentions` says so without saying how the list is made, and determines it
(`isFirstMentions_iff`).
-/

namespace AccountDirectory.Claims

/-- **The first mentions** of entries, in order. -/
structure IsFirstMentions (entries scopes : List String) : Prop where
  /-- Nothing is lost and nothing is added. -/
  mem_iff : ∀ s, s ∈ scopes ↔ s ∈ entries
  /-- An earlier scope is first mentioned earlier; so none stands twice. -/
  inOrder : scopes.Pairwise fun s t ↦ entries.idxOf s < entries.idxOf t

theorem IsFirstMentions.nodup {entries scopes : List String} (h : IsFirstMentions entries scopes) :
    scopes.Nodup := by
  refine h.inOrder.imp ?_
  rintro s _ hlt rfl
  exact Nat.lt_irrefl _ hlt

theorem mem_firstMentions_iff {entries : List String} {s : String} :
    s ∈ firstMentions entries ↔ s ∈ entries := by
  induction entries with
  | nil => exact Iff.rfl
  | cons t rest ih =>
    by_cases h : s = t
    · simp [firstMentions, h]
    · simp [firstMentions, h, ih]

/-- The first mentions of a list are made in order. -/
theorem isFirstMentions_firstMentions (entries : List String) :
    IsFirstMentions entries (firstMentions entries) where
  mem_iff _ := mem_firstMentions_iff
  inOrder := by
    induction entries with
    | nil => exact List.Pairwise.nil
    | cons t rest ih =>
      rw [firstMentions, List.pairwise_cons]
      constructor
      · intro s hs
        have hne : t ≠ s := fun h ↦ by simp [h] at hs
        rw [List.idxOf_cons_self, List.idxOf_cons_ne _ hne]
        exact Nat.succ_pos _
      · -- without `t`, the indices of the others all move by one
        refine (ih.filter _).imp_of_mem fun {a b} ha hb hlt ↦ ?_
        have hne : ∀ {s}, s ∈ (firstMentions rest).filter (· ≠ t) → t ≠ s :=
          fun hs h ↦ by simp [h] at hs
        rw [List.idxOf_cons_ne _ (hne ha), List.idxOf_cons_ne _ (hne hb)]
        exact Nat.succ_lt_succ hlt

/-- **There is one list of first mentions.** -/
theorem isFirstMentions_iff {entries scopes : List String} :
    IsFirstMentions entries scopes ↔ scopes = firstMentions entries := by
  constructor
  · intro h
    have hf := isFirstMentions_firstMentions entries
    have : Std.Irrefl fun s t : String ↦ entries.idxOf s < entries.idxOf t :=
      ⟨fun s ↦ Nat.lt_irrefl _⟩
    exact h.inOrder.eq_of_mem_iff hf.inOrder fun s ↦ (h.mem_iff s).trans (hf.mem_iff s).symm
  · rintro rfl
    exact isFirstMentions_firstMentions entries

end AccountDirectory.Claims
