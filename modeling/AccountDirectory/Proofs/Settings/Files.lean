import AccountDirectory.Proofs.Settings.Tables
import AccountDirectory.Settings.File
import Mathlib.Data.Option.Basic

/-!
# The tree of a file

A file of settings is a table, and every table in it has its keys in strictly rising order
(`ordered_of_ofFile?`), whatever the order and the repetitions of the keys in the text.

A reading of nodes counts the aliases it has followed; what it returns is seen here whatever the
count (`Gives`).
-/

namespace AccountDirectory.Setting

open Yaml (Node)

variable {α β : Type}

/-! ### Readings -/

/-- The reading returns this, from some count of aliases. -/
def Gives (x : Reading α) (a : α) : Prop := ∃ n n', x.run n = some (a, n')

theorem eq_of_gives_pure {a b : α} (h : Gives (pure a) b) : b = a := by
  obtain ⟨n, n', hrun⟩ := h
  cases hrun
  rfl

theorem exists_of_gives_bind {x : Reading α} {f : α → Reading β} {b : β} (h : Gives (x >>= f) b) :
    ∃ a, Gives x a ∧ Gives (f a) b := by
  obtain ⟨n, n', hrun⟩ := h
  rw [StateT.run_bind] at hrun
  obtain ⟨⟨a, m⟩, hx, hf⟩ := Option.bind_eq_some_iff.1 hrun
  exact ⟨a, ⟨n, m, hx⟩, ⟨m, n', hf⟩⟩

theorem not_gives_failure {a : α} : ¬Gives failure a := by
  rintro ⟨n, n', hrun⟩
  cases hrun

/-- What a reading of a list returns comes from its items. -/
theorem exists_of_gives_mapM {f : α → Reading β} {xs : List α} {ys : List β}
    (h : Gives (xs.mapM f) ys) : ∀ y ∈ ys, ∃ x ∈ xs, Gives (f x) y := by
  induction xs generalizing ys with
  | nil =>
    rw [List.mapM_nil] at h
    obtain rfl := eq_of_gives_pure h
    exact nofun
  | cons x xs ih =>
    rw [List.mapM_cons] at h
    obtain ⟨y, hy, hrest⟩ := exists_of_gives_bind h
    obtain ⟨ys', hys', hpure⟩ := exists_of_gives_bind hrest
    obtain rfl := eq_of_gives_pure hpure
    refine List.forall_mem_cons.2 ⟨⟨x, List.mem_cons_self, hy⟩, fun y' hy' ↦ ?_⟩
    obtain ⟨x', hx', hgives⟩ := ih hys' y' hy'
    exact ⟨x', List.mem_cons_of_mem _ hx', hgives⟩

/-! ### Nodes -/

theorem ordered_ofScalar (scalar : Yaml.Scalar) : (ofScalar scalar).Ordered := by
  refine ordered_of_not_isTable ?_
  cases scalar <;> exact id

theorem ordered_tagged {s : Setting} (h : s.Ordered) (tag : Option Yaml.Tag) :
    (tagged tag s).Ordered := by
  rw [tagged]
  split
  · exact ordered_nested h _
  · exact h

theorem ordered_ofEntries {es : List (String × Setting)} (h : ∀ e ∈ es, e.2.Ordered) :
    (ofEntries es).Ordered := by
  rw [ofEntries]
  cases hvalue : (tableOf es).lookup valueKey with
  | none => exact ordered_tableOf h
  | some s => exact h _ (mem_of_mem_tableOf (mem_of_lookup hvalue))

/-- What a node stands for is in order. -/
theorem ordered_ofNode {around : Surroundings} {depth : Nat} {node : Node} {s : Setting}
    (h : Gives (ofNode around depth node) s) : s.Ordered := by
  induction depth generalizing node s with
  | zero =>
    rw [ofNode] at h
    obtain ⟨node, -, h⟩ := exists_of_gives_bind h
    cases node with
    | scalar p plain spelled =>
      obtain ⟨scalar, -, h⟩ := exists_of_gives_bind h
      exact eq_of_gives_pure h ▸ ordered_tagged (ordered_ofScalar scalar) _
    | _ => exact absurd h not_gives_failure
  | succ depth ih =>
    rw [ofNode] at h
    obtain ⟨node, -, h⟩ := exists_of_gives_bind h
    cases node with
    | scalar p plain spelled =>
      obtain ⟨scalar, -, h⟩ := exists_of_gives_bind h
      exact eq_of_gives_pure h ▸ ordered_tagged (ordered_ofScalar scalar) _
    | list p items =>
      obtain ⟨settings, -, h⟩ := exists_of_gives_bind h
      exact eq_of_gives_pure h ▸ ordered_tagged (ordered_of_not_isTable id) _
    | table p entries =>
      obtain ⟨read, hread, h⟩ := exists_of_gives_bind h
      refine eq_of_gives_pure h ▸ ordered_tagged (ordered_ofEntries fun e he ↦ ?_) _
      obtain ⟨_, hmem, rfl⟩ := List.mem_filterMap.1 he
      obtain ⟨⟨key, value⟩, -, hentry⟩ := exists_of_gives_mapM hread _ hmem
      obtain ⟨name, -, hentry⟩ := exists_of_gives_bind hentry
      split at hentry
      · obtain ⟨_, -, hentry⟩ := exists_of_gives_bind hentry
        obtain ⟨_, -, hentry⟩ := exists_of_gives_bind hentry
        cases eq_of_gives_pure hentry
      · obtain ⟨t, ht, hentry⟩ := exists_of_gives_bind hentry
        obtain rfl := Option.some.inj (eq_of_gives_pure hentry)
        exact ih ht
    | aliasOf anchor => exact absurd h not_gives_failure

/-- **The tree of a file is in order.** -/
theorem ordered_of_ofFile? {content : String} {root : Setting} (h : ofFile? content = some root) :
    root.Ordered := by
  have hempty : (table []).Ordered := ordered_table.2 ⟨.nil, nofun⟩
  obtain ⟨node, -, hroot⟩ := Option.bind_eq_some_iff.1 h
  cases node with
  | none => exact Option.some.inj hroot ▸ hempty
  | some node =>
    change ofRoot? node = some root at hroot
    cases node with
    | scalar p plain spelled =>
      rw [ofRoot?] at hroot
      split at hroot
      · exact Option.some.inj hroot ▸ hempty
      · cases hroot
    | table p entries =>
      obtain ⟨⟨es, n⟩, hrun, rfl⟩ := Option.map_eq_some_iff.1 hroot
      refine ordered_tableOf fun e he ↦ ?_
      obtain ⟨⟨key, value⟩, -, hentry⟩ := exists_of_gives_mapM ⟨0, n, hrun⟩ e he
      obtain ⟨name, -, hentry⟩ := exists_of_gives_bind hentry
      obtain ⟨t, ht, hentry⟩ := exists_of_gives_bind hentry
      exact eq_of_gives_pure hentry ▸ ordered_ofNode ht
    | _ => cases hroot

end AccountDirectory.Setting
