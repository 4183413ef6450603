import AccountDirectory.Settings.Layer
import Mathlib.Data.String.Basic

/-!
# Settings along paths

A tree of settings is seen here as what stands along each path of keys (`Setting.at?`). The path is
open (`Setting.Open`) if there is nothing but tables above its end. Along a path that is open in two
layers, the one over the other holds what the upper one holds there, over what the lower one does
(`at?_layeredOver`).

Tables are put together entry by entry, which keeps their keys in strictly rising order
(`Setting.Ordered`). So a key stands in a table once, and all of its entries are found by their
keys.
-/

namespace AccountDirectory.Setting

variable {key key' : String} {path rest : List String} {s t upper lower : Setting}
  {es es' : List (String × Setting)}

/-! ### Entries of tables -/

/-- The keys stand in strictly rising order. -/
def Rising (es : List (String × Setting)) : Prop := es.Pairwise (·.1 < ·.1)

theorem Rising.nodup (h : Rising es) : (es.map Prod.fst).Nodup :=
  (List.pairwise_map.2 h).imp fun hlt ↦ hlt.ne

theorem lookup_cons_eq_ite (e : String × Setting) (es : List (String × Setting)) :
    (e :: es).lookup key = if key = e.1 then some e.2 else es.lookup key := by
  obtain ⟨k, t⟩ := e
  rw [List.lookup_cons]
  by_cases h : key = k
  · rw [if_pos h, beq_iff_eq.2 h]
  · rw [if_neg h, beq_false_of_ne h]

theorem lookup_insert (key key' : String) (s : Setting) (es : List (String × Setting)) :
    (insert key s es).lookup key' = if key' = key then some s else es.lookup key' := by
  induction es with
  | nil => exact lookup_cons_eq_ite (key, s) []
  | cons e es ih =>
    obtain ⟨k, t⟩ := e
    rw [insert]
    split
    · exact lookup_cons_eq_ite (key, s) _
    · split
      · next heq =>
        subst heq
        rw [lookup_cons_eq_ite, lookup_cons_eq_ite]
        grind
      · rw [lookup_cons_eq_ite, ih, lookup_cons_eq_ite]
        grind

theorem mem_insert {e : String × Setting} (h : e ∈ insert key s es) : e = (key, s) ∨ e ∈ es := by
  induction es with
  | nil => exact .inl (List.mem_singleton.1 h)
  | cons e' es ih =>
    obtain ⟨k, t⟩ := e'
    rw [insert] at h
    split at h
    · exact List.mem_cons.1 h
    · split at h
      · exact (List.mem_cons.1 h).imp_right (List.mem_cons_of_mem _)
      · obtain rfl | h := List.mem_cons.1 h
        · exact .inr List.mem_cons_self
        · exact (ih h).imp_right (List.mem_cons_of_mem _)

theorem Rising.insert (h : Rising es) (key : String) (s : Setting) : Rising (insert key s es) := by
  induction es with
  | nil => exact List.pairwise_singleton _ _
  | cons e es ih =>
    obtain ⟨k, t⟩ := e
    obtain ⟨hfirst, hes⟩ := List.pairwise_cons.1 h
    rw [Setting.insert]
    split
    · next hlt =>
      refine List.pairwise_cons.2 ⟨fun e he ↦ ?_, h⟩
      obtain rfl | he := List.mem_cons.1 he
      · exact hlt
      · exact hlt.trans (hfirst e he)
    · next hge =>
      split
      · next heq => exact List.pairwise_cons.2 ⟨heq ▸ hfirst, hes⟩
      · next hne =>
        have hlt : k < key := lt_of_le_of_ne (not_lt.1 hge) (Ne.symm hne)
        refine List.pairwise_cons.2 ⟨fun e he ↦ ?_, ih hes⟩
        obtain rfl | he := mem_insert he
        · exact hlt
        · exact hfirst e he

/-- The table that is made of entries is in order, whatever their order. -/
theorem rising_tableOf (es : List (String × Setting)) : Rising (tableOf es) := by
  suffices h : ∀ table, Rising table →
      Rising (es.foldl (fun table (e : String × Setting) ↦ insert e.1 e.2 table) table) from
    h [] .nil
  induction es with
  | nil => exact fun _ h ↦ h
  | cons e es ih => exact fun table h ↦ ih _ (h.insert e.1 e.2)

theorem mem_of_mem_tableOf {e : String × Setting} (h : e ∈ tableOf es) : e ∈ es := by
  suffices hfold : ∀ table, e ∈ es.foldl (fun table (e : String × Setting) ↦
      insert e.1 e.2 table) table → e ∈ table ∨ e ∈ es from
    (hfold [] h).resolve_left List.not_mem_nil
  clear h
  induction es with
  | nil => exact fun _ h ↦ .inl h
  | cons e' es ih =>
    intro table h
    obtain hinsert | hes := ih _ h
    · obtain rfl | htable := mem_insert hinsert
      · exact .inr List.mem_cons_self
      · exact .inl htable
    · exact .inr (List.mem_cons_of_mem _ hes)

theorem mem_of_lookup (h : es.lookup key = some s) : (key, s) ∈ es := by
  obtain ⟨before, after, rfl, -⟩ := List.lookup_eq_some_iff.1 h
  simp

/-- In a table in order every entry is found by its key. -/
theorem Rising.lookup_eq_some_iff (h : Rising es) : es.lookup key = some s ↔ (key, s) ∈ es := by
  refine ⟨mem_of_lookup, fun hmem ↦ ?_⟩
  obtain ⟨before, after, rfl⟩ := List.append_of_mem hmem
  refine List.lookup_eq_some_iff.2 ⟨before, after, rfl, fun e he ↦ ?_⟩
  have hlt : e.1 < key := (List.pairwise_append.1 h).2.2 e he (key, s) List.mem_cons_self
  exact bne_iff_ne.2 hlt.ne'

/-! ### One table over another -/

theorem layeredOver_table :
    (table es).layeredOver (table es') = .table (entriesOver es es') := by
  rw [layeredOver]

theorem rising_entriesOver (h : Rising es') : Rising (entriesOver es es') := by
  induction es with
  | nil => rwa [entriesOver]
  | cons e es ih =>
    rw [entriesOver]
    exact ih.insert _ _

/-- Each entry of the tables is layered on its own. -/
theorem lookup_entriesOver (key : String) : (entriesOver es es').lookup key =
    (es.lookup key).merge layeredOver (es'.lookup key) := by
  induction es with
  | nil => rw [entriesOver, List.lookup_nil, Option.merge_none_left]
  | cons e es ih =>
    obtain ⟨k, s⟩ := e
    rw [entriesOver, lookup_insert, lookup_cons_eq_ite, ih]
    by_cases hk : key = k
    · subst hk
      rw [if_pos rfl, if_pos rfl]
      cases es'.lookup key <;> rfl
    · rw [if_neg hk, if_neg hk]

/-! ### Paths -/

/-- The setting is a table. -/
def IsTable : Setting → Prop
  | .table _ => True
  | _ => False

theorem isTable_iff : s.IsTable ↔ ∃ es, s = .table es := by
  cases s <;> simp [IsTable]

theorem layeredOver_of_not_isTable (h : ¬s.IsTable) : s.layeredOver t = s := by
  cases s with
  | table es => exact absurd trivial h
  | _ => rw [layeredOver]; simp

/-- Either both layers are tables, or the upper one hides the lower one. -/
theorem layeredOver_cases (upper lower : Setting) : upper.layeredOver lower = upper ∨
    ∃ es es', upper = .table es ∧ lower = .table es' := by
  cases upper with
  | table es =>
    cases lower with
    | table es' => exact .inr ⟨es, es', rfl, rfl⟩
    | _ => left; rw [layeredOver]; simp
  | _ => exact .inl (layeredOver_of_not_isTable id)

/-- What stands at the end of a path of keys. -/
def at? : Setting → List String → Option Setting
  | s, [] => some s
  | .table es, key :: path => (es.lookup key).bind (at? · path)
  | _, _ :: _ => none

@[simp] theorem at?_nil : s.at? [] = some s := by
  cases s <;> rfl

theorem at?_table_cons : (table es).at? (key :: path) = (es.lookup key).bind (at? · path) := rfl

theorem Rising.at?_cons (h : Rising es) (hs : (key, s) ∈ es) :
    (table es).at? (key :: path) = s.at? path := by
  rw [at?_table_cons, h.lookup_eq_some_iff.2 hs, Option.bind_some]

theorem at?_cons_of_not_isTable (h : ¬s.IsTable) : s.at? (key :: path) = none := by
  cases s with
  | table es => exact absurd trivial h
  | _ => rfl

theorem at?_append (s : Setting) (path rest : List String) :
    s.at? (path ++ rest) = (s.at? path).bind (at? · rest) := by
  induction path generalizing s with
  | nil => simp
  | cons key path ih =>
    by_cases h : s.IsTable
    · obtain ⟨es, rfl⟩ := isTable_iff.1 h
      rw [List.cons_append, at?_table_cons, at?_table_cons, Option.bind_assoc]
      exact Option.bind_congr fun s _ ↦ ih s
    · rw [List.cons_append, at?_cons_of_not_isTable h, at?_cons_of_not_isTable h, Option.bind_none]

/-- **Nothing but tables** stands above the end of the path. -/
def Open (s : Setting) (path : List String) : Prop :=
  ∀ above key below, path = above ++ key :: below → ∀ t, s.at? above = some t → t.IsTable

theorem open_nil : s.Open [] := fun _ _ _ h ↦ absurd h (by simp)

theorem open_cons :
    s.Open (key :: path) ↔ ∃ es, s = .table es ∧ ∀ t, es.lookup key = some t → t.Open path := by
  constructor
  · intro h
    obtain ⟨es, rfl⟩ := isTable_iff.1 (h [] key path rfl s at?_nil)
    refine ⟨es, rfl, fun t ht above k below hpath r hr ↦ ?_⟩
    refine h (key :: above) k below (by rw [hpath, List.cons_append]) r ?_
    rw [at?_table_cons, ht]
    exact hr
  · rintro ⟨es, rfl, h⟩ above k below hpath t ht
    cases above with
    | nil =>
      rw [at?_nil, Option.some.injEq] at ht
      exact ht ▸ trivial
    | cons key' above =>
      obtain ⟨rfl, hrest⟩ := List.cons.inj hpath
      obtain ⟨r, hr, ht⟩ := Option.bind_eq_some_iff.1 ht
      exact h r hr above k below hrest t ht

/-- What stands on an open path is open as far. -/
theorem Open.of_append {below : List String} (h : s.Open (path ++ below)) : s.Open path :=
  fun above key rest hpath t ht ↦ h above key (rest ++ below) (by rw [hpath]; simp) t ht

theorem open_of_isSome (h : (s.at? path).isSome) : s.Open path := by
  intro above key below hpath t ht
  rw [hpath, at?_append, ht, Option.bind_some] at h
  by_contra htable
  rw [at?_cons_of_not_isTable htable] at h
  cases h

/-- **Layers are merged leaf by leaf**: along a path that is open in both of them. -/
theorem at?_layeredOver (hupper : upper.Open path) (hlower : lower.Open path) :
    (upper.layeredOver lower).at? path = (upper.at? path).merge layeredOver (lower.at? path) := by
  induction path generalizing upper lower with
  | nil => simp only [at?_nil, Option.merge]
  | cons key path ih =>
    obtain ⟨es, rfl, hes⟩ := open_cons.1 hupper
    obtain ⟨es', rfl, hes'⟩ := open_cons.1 hlower
    rw [layeredOver_table, at?_table_cons, at?_table_cons, at?_table_cons, lookup_entriesOver]
    cases hu : es.lookup key with
    | none => simp [Option.merge_none_left]
    | some s =>
      cases hl : es'.lookup key with
      | none => simp [Option.merge_none_right]
      | some t => exact ih (hes s hu) (hes' t hl)

/-! ### Trees in order -/

/-- Every table of the tree has its keys in strictly rising order. -/
def Ordered (s : Setting) : Prop := ∀ path es, s.at? path = some (.table es) → Rising es

theorem ordered_table :
    (table es).Ordered ↔ Rising es ∧ ∀ key s, es.lookup key = some s → s.Ordered := by
  constructor
  · refine fun h ↦ ⟨h [] es at?_nil, fun key s hs path es' hpath ↦ h (key :: path) es' ?_⟩
    rwa [at?_table_cons, hs]
  · rintro ⟨hes, h⟩ path es' hpath
    cases path with
    | nil =>
      rw [at?_nil, Option.some.injEq, table.injEq] at hpath
      exact hpath ▸ hes
    | cons key path =>
      obtain ⟨s, hs, hpath⟩ := Option.bind_eq_some_iff.1 hpath
      exact h key s hs path es' hpath

theorem ordered_of_not_isTable (h : ¬s.IsTable) : s.Ordered := by
  intro path es hpath
  cases path with
  | nil =>
    rw [at?_nil, Option.some.injEq] at hpath
    exact absurd (hpath ▸ trivial) h
  | cons key path =>
    rw [at?_cons_of_not_isTable h] at hpath
    cases hpath

/-- A table of ordered settings, put together entry by entry, is in order. -/
theorem ordered_tableOf (h : ∀ e ∈ es, e.2.Ordered) : (table (tableOf es)).Ordered :=
  ordered_table.2 ⟨rising_tableOf es, fun _ _ hs ↦ h _ (mem_of_mem_tableOf (mem_of_lookup hs))⟩

theorem ordered_nested (h : s.Ordered) (path : List String) : (nested path s).Ordered := by
  induction path with
  | nil => exact h
  | cons key path ih =>
    refine ordered_table.2 ⟨List.pairwise_singleton _ _, fun key' t ht ↦ ?_⟩
    have hmem : (key', t) = (key, nested path s) := List.mem_singleton.1 (mem_of_lookup ht)
    exact (Prod.mk.inj hmem).2 ▸ ih

theorem Ordered.layeredOver (hupper : upper.Ordered) (hlower : lower.Ordered) :
    (upper.layeredOver lower).Ordered := by
  intro path es hpath
  induction path generalizing upper lower with
  | nil =>
    obtain hhides | ⟨es₁, es₂, rfl, rfl⟩ := layeredOver_cases upper lower
    · exact hupper [] es (hhides ▸ hpath)
    · rw [layeredOver_table, at?_nil, Option.some.injEq, table.injEq] at hpath
      exact hpath ▸ rising_entriesOver (ordered_table.1 hlower).1
  | cons key path ih =>
    obtain hhides | ⟨es₁, es₂, rfl, rfl⟩ := layeredOver_cases upper lower
    · exact hupper (key :: path) es (hhides ▸ hpath)
    · rw [layeredOver_table, at?_table_cons, lookup_entriesOver] at hpath
      obtain ⟨s, hs, hpath⟩ := Option.bind_eq_some_iff.1 hpath
      obtain ⟨-, hupper⟩ := ordered_table.1 hupper
      obtain ⟨-, hlower⟩ := ordered_table.1 hlower
      cases hu : es₁.lookup key with
      | none =>
        rw [hu, Option.merge_none_left] at hs
        exact hlower key s hs path es hpath
      | some s₁ =>
        cases hl : es₂.lookup key with
        | none =>
          rw [hu, hl, Option.merge_none_right] at hs
          exact hupper key s (hu.trans hs) path es hpath
        | some s₂ =>
          rw [hu, hl] at hs
          cases hs
          exact ih (hupper key s₁ hu) (hlower key s₂ hl) hpath

/-! ### One setting in a tree -/

theorem at?_nested (path : List String) (s : Setting) : (nested path s).at? path = some s := by
  induction path with
  | nil => exact at?_nil
  | cons key path ih =>
    rw [nested, at?_table_cons, lookup_cons_eq_ite, if_pos rfl]
    exact ih

/-- In the tree that holds one setting there is nothing but tables on the way to it, and what is
behind it. -/
theorem at?_nested_cases {path' : List String} (h : (nested path s).at? path' = some t) :
    (∃ key rest, path = path' ++ key :: rest ∧ t.IsTable) ∨ ∃ rest, path' = path ++ rest := by
  induction path generalizing path' with
  | nil => exact .inr ⟨path', rfl⟩
  | cons key path ih =>
    cases path' with
    | nil =>
      rw [at?_nil, Option.some.injEq] at h
      exact .inl ⟨key, path, rfl, h ▸ trivial⟩
    | cons key' path' =>
      obtain ⟨r, hr, hrest⟩ := Option.bind_eq_some_iff.1 h
      obtain ⟨rfl, rfl⟩ := Prod.mk.inj (List.mem_singleton.1 (mem_of_lookup hr))
      obtain ⟨key, rest, rfl, htable⟩ | ⟨rest, rfl⟩ := ih hrest
      · exact .inl ⟨key, rest, rfl, htable⟩
      · exact .inr ⟨rest, rfl⟩

end AccountDirectory.Setting
