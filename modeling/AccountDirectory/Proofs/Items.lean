import Mathlib.Data.List.Forall2

/-!
# Lists that are read item by item

A list that is read item by item has a result if and only if each item has one
(`mapM_eq_some_iff`). If the items that are read are those that are written for their results, then
so are the lists (`mapM_eq_some_iff_eq_map`).
-/

namespace AccountDirectory

variable {α β : Type} {read : α → Option β} {items : List α} {results : List β}

/-- **Each item is read as its result.** -/
theorem mapM_eq_some_iff :
    items.mapM read = some results ↔ List.Forall₂ (fun x y ↦ read x = some y) items results := by
  induction items generalizing results with
  | nil => simp only [List.mapM_nil, Option.pure_def, Option.some.injEq, List.forall₂_nil_left_iff,
      eq_comm]
  | cons x rest ih =>
    simp only [List.mapM_cons, Option.bind_eq_bind, Option.bind_eq_some_iff, Option.pure_def,
      Option.some.injEq, List.forall₂_cons_left_iff, ih]
    constructor
    · rintro ⟨y, hy, later, hlater, rfl⟩
      exact ⟨y, later, hy, hlater, rfl⟩
    · rintro ⟨y, later, hy, hlater, rfl⟩
      exact ⟨y, hy, later, hlater, rfl⟩

/-- A reader that is the inverse of a writer is so for lists as well. -/
theorem mapM_eq_some_iff_eq_map {write : β → α} (h : ∀ x y, read x = some y ↔ x = write y) :
    items.mapM read = some results ↔ items = results.map write := by
  rw [mapM_eq_some_iff, ← List.forall₂_eq_eq_eq, List.forall₂_map_right_iff]
  simp only [h]

/-- Every item has a result, and every result comes from an item. -/
theorem exists_of_mapM (h : items.mapM read = some results) :
    (∀ x ∈ items, (read x).isSome) ∧ ∀ y ∈ results, ∃ x, read x = some y := by
  have hpairs := mapM_eq_some_iff.1 h
  clear h
  induction hpairs with
  | nil => exact ⟨fun x hx ↦ absurd hx List.not_mem_nil, fun y hy ↦ absurd hy List.not_mem_nil⟩
  | @cons x y _ _ hxy _ ih =>
    exact ⟨List.forall_mem_cons.2 ⟨Option.isSome_of_eq_some hxy, ih.1⟩,
      List.forall_mem_cons.2 ⟨⟨x, hxy⟩, ih.2⟩⟩

end AccountDirectory
