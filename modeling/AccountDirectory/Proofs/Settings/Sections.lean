import AccountDirectory.Proofs.Settings.Leaves

/-!
# Reading sections leaf by leaf

A reader of settings reads leaves (`Reads`) if, of any tree with sections, it fails if and only if a
key is not known or a leaf not of its type, and what it returns holds at each leaf what was set
there. A record that is put together from parts, each with a reader of its own, reads the leaves of
its parts, one level further down (`reads_section`). So the settings are read leaf by leaf
(`reads_ofSetting`).
-/

namespace AccountDirectory.Settings

open Setting

variable {α β : Type}

/-- **The reader reads these leaves** of a tree with sections. -/
structure Reads (reader : Setting → Outcome α) (default : α) (L : List (Leaf α)) : Prop where
  /-- It fails only if a key is not known or a leaf not of its type. -/
  exists_ok_iff {tree : Setting} : tree.Ordered → Sectioned L tree →
    ((∃ a, reader tree = .ok a) ↔ KnowsKeys L tree ∧ WellTyped L tree)
  /-- It returns what is set at each leaf, else the default. -/
  holds {tree : Setting} {a : α} : tree.Ordered → Sectioned L tree → reader tree = .ok a →
    ∀ leaf ∈ L, leaf.Holds default a (tree.at? leaf.path)
  /-- Its failures name their cause. -/
  blames {tree : Setting} {e : SettingsError} : tree.Ordered → Sectioned L tree →
    reader tree = .error e → Blames L tree e

/-! ### Leaves on their own -/

/-- A reader that takes what a type admits reads a leaf that is all of the tree. -/
theorem reads_leaf {reader : Setting → Outcome α} {type : LeafType} {get : α → LeafValue}
    (default : α) (hok : ∀ {s a}, reader s = .ok a → type.Admits s (get a))
    (hadmits : ∀ {s v}, type.Admits s v → ∃ a, reader s = .ok a)
    (hfault : ∀ {s e}, reader s = .error e → e = ⟨type.fault s, []⟩) :
    Reads reader default [⟨[], type, get⟩] where
  exists_ok_iff := by
    intro tree _ _
    constructor
    · rintro ⟨a, ha⟩
      refine ⟨fun path _ ↦ ⟨_, List.mem_singleton_self _, .inr List.nil_prefix⟩, ?_⟩
      intro leaf hleaf s hs
      obtain rfl := List.mem_singleton.1 hleaf
      rw [at?_nil, Option.some.injEq] at hs
      exact ⟨get a, hs ▸ hok ha⟩
    · rintro ⟨-, htyped⟩
      obtain ⟨v, hv⟩ := htyped _ (List.mem_singleton_self _) tree at?_nil
      exact hadmits hv
  holds := by
    intro tree a _ _ ha leaf hleaf
    obtain rfl := List.mem_singleton.1 hleaf
    rw [at?_nil]
    exact hok ha
  blames := by
    intro tree e _ _ he
    refine .inl ⟨_, List.mem_singleton_self _, tree, at?_nil, fun v hv ↦ ?_, hfault he⟩
    obtain ⟨a, ha⟩ := hadmits hv
    rw [he] at ha
    cases ha

theorem reads_text (default : String) : Reads text default [.text [] id] := by
  refine reads_leaf default ?_ ?_ ?_
  · intro s a h
    cases s with
    | text s => cases h; exact .text a
    | _ => cases h
  · intro s v h
    obtain ⟨t⟩ := h
    exact ⟨t, rfl⟩
  · intro s e h
    cases s <;> cases h <;> rfl

theorem reads_optionalText (default : Option String) :
    Reads optionalText default [.optionalText [] id] := by
  refine reads_leaf default ?_ ?_ ?_
  · intro s a h
    cases s with
    | empty => cases h; exact .nothing
    | text s => cases h; exact .given s
    | _ => cases h
  · intro s v h
    cases h with
    | given t => exact ⟨some t, rfl⟩
    | nothing => exact ⟨none, rfl⟩
  · intro s e h
    cases s <;> cases h <;> rfl

theorem natural_eq_ok_iff {s : Setting} {n : Nat} :
    natural s = .ok n ↔ s = .integer n ∧ n < 2 ^ 64 := by
  cases s with
  | integer i =>
    rw [natural, Setting.integer.injEq]
    split
    · next hi =>
      split
      · rw [Except.ok.injEq]
        omega
      · exact ⟨nofun, fun h ↦ by omega⟩
    · refine ⟨fun h ↦ ?_, fun h ↦ by omega⟩
      split at h <;> cases h
  | _ => exact ⟨nofun, nofun⟩

theorem reads_natural (default : Nat) : Reads natural default [.natural [] id] := by
  refine reads_leaf default ?_ ?_ ?_
  · intro s n h
    obtain ⟨rfl, hn⟩ := natural_eq_ok_iff.1 h
    exact .natural hn
  · intro s v h
    cases h with
    | natural hn => exact ⟨_, natural_eq_ok_iff.2 ⟨rfl, hn⟩⟩
  · intro s e h
    cases s with
    | integer n =>
      rw [natural] at h
      rw [LeafType.fault]
      split at h
      · split at h
        · cases h
        · cases h
          rw [if_neg (by omega)]
      · split at h
        · cases h
          rw [if_pos (by omega)]
        · cases h
          rw [if_neg (by omega)]
    | _ => cases h; rfl

/-! ### Parts -/

/-- A leaf of a part, seen from one level further out. -/
def Leaf.under (key : String) (get : α → β) (leaf : Leaf β) : Leaf α :=
  ⟨key :: leaf.path, leaf.type, fun a ↦ leaf.get (get a)⟩

/-- A part of a record of settings. -/
structure Part (α : Type) where
  {β : Type}
  /-- The key that it stands under. -/
  name : String
  reader : Setting → Outcome β
  get : α → β
  put : α → β → α
  /-- The leaves within the part. -/
  within : List (Leaf β)

/-- The field that reads the part. -/
def Part.field (part : Part α) : Field α := Settings.field part.name part.reader part.put

/-- The leaves of the part, as leaves of the record. -/
def Part.leaves (part : Part α) : List (Leaf α) := part.within.map (Leaf.under part.name part.get)

/-- **A record is put together from its parts**, which start with their defaults. -/
structure Assembles (parts : List (Part α)) (default : α) : Prop where
  nodup : (parts.map Part.name).Nodup
  /-- A part that is put is there. -/
  get_put : ∀ part ∈ parts, ∀ a b, part.get (part.put a b) = b
  /-- All other parts stay as they are. -/
  get_put_of_ne : ∀ part ∈ parts, ∀ part' ∈ parts, part.name ≠ part'.name →
    ∀ a b, part.get (part'.put a b) = part.get a
  reads : ∀ part ∈ parts, Reads part.reader (part.get default) part.within
  exists_leaf : ∃ leaf, leaf ∈ parts.flatMap Part.leaves

namespace Assembles

variable {parts : List (Part α)} {default a a' : α} {part part' : Part α} {key : String}
  {s : Setting} {es : List (String × Setting)}

theorem eq_of_name_eq (h : Assembles parts default) (hpart : part ∈ parts) (hpart' : part' ∈ parts)
    (hname : part.name = part'.name) : part = part' :=
  List.inj_on_of_nodup_map h.nodup hpart hpart' hname

/-- An entry is read by the part that has its key. -/
theorem readEntries_cons (h : Assembles parts default) (hpart : part ∈ parts) :
    readEntries (parts.map Part.field) a ((part.name, s) :: es) =
      match part.reader s with
      | .ok b => readEntries (parts.map Part.field) (part.put a b) es
      | .error e => .error (e.under part.name) := by
  have hfind : (parts.map Part.field).find? (·.name == part.name) = some part.field := by
    rw [List.find?_map]
    cases hfind : parts.find? ((fun f : Field α ↦ f.name == part.name) ∘ Part.field) with
    | none => exact absurd (beq_self_eq_true _) (List.find?_eq_none.1 hfind part hpart)
    | some part' =>
      have hname : part'.name = part.name := by
        simpa [Part.field, Settings.field] using List.find?_some hfind
      rw [h.eq_of_name_eq (List.mem_of_find?_eq_some hfind) hpart hname, Option.map_some]
  have hfield : part.field.read a s = (part.reader s).map (part.put a) := rfl
  rw [readEntries, hfind]
  dsimp only
  rw [hfield]
  cases part.reader s with
  | ok b => rfl
  | error e => rfl

/-- An entry that no part has the key of is unknown. -/
theorem readEntries_cons_of_unknown (hkey : ∀ part ∈ parts, part.name ≠ key) :
    readEntries (parts.map Part.field) a ((key, s) :: es) = .error ⟨.unknownField key, [key]⟩ := by
  have hfind : (parts.map Part.field).find? (·.name == key) = none := by
    rw [List.find?_map, Option.map_eq_none_iff, List.find?_eq_none]
    exact fun part hpart hname ↦ hkey part hpart (beq_iff_eq.1 hname)
  rw [readEntries, hfind]

/-- A table that is not read has an entry for no part, or one that its part cannot read. -/
theorem exists_of_readEntries_error (h : Assembles parts default) {e : SettingsError}
    (hread : readEntries (parts.map Part.field) a es = .error e) :
    (∃ entry ∈ es, (∀ part ∈ parts, part.name ≠ entry.1) ∧
      e = ⟨.unknownField entry.1, [entry.1]⟩) ∨
    ∃ entry ∈ es, ∃ part ∈ parts, part.name = entry.1 ∧ ∃ e', part.reader entry.2 = .error e' ∧
      e = e'.under part.name := by
  induction es generalizing a with
  | nil => cases hread
  | cons entry es ih =>
    obtain ⟨key, s⟩ := entry
    by_cases hkey : ∃ part ∈ parts, part.name = key
    · obtain ⟨part, hpart, rfl⟩ := hkey
      rw [h.readEntries_cons hpart] at hread
      cases hs : part.reader s with
      | error e' =>
        rw [hs] at hread
        exact .inr ⟨_, List.mem_cons_self, part, hpart, rfl, e', hs, (Except.error.inj hread).symm⟩
      | ok b =>
        rw [hs] at hread
        obtain ⟨entry, hentry, hcause⟩ | ⟨entry, hentry, hcause⟩ := ih hread
        · exact .inl ⟨entry, List.mem_cons_of_mem _ hentry, hcause⟩
        · exact .inr ⟨entry, List.mem_cons_of_mem _ hentry, hcause⟩
    · have hunknown : ∀ part ∈ parts, part.name ≠ key := fun part hpart hname ↦
        hkey ⟨part, hpart, hname⟩
      rw [readEntries_cons_of_unknown hunknown] at hread
      exact .inl ⟨_, List.mem_cons_self, hunknown, (Except.error.inj hread).symm⟩

/-- A table is read if and only if each of its entries is, by the part with its key. -/
theorem exists_readEntries_iff (h : Assembles parts default) :
    (∃ a', readEntries (parts.map Part.field) a es = .ok a') ↔
      ∀ e ∈ es, ∃ part ∈ parts, part.name = e.1 ∧ ∃ b, part.reader e.2 = .ok b := by
  induction es generalizing a with
  | nil => exact ⟨fun _ ↦ nofun, fun _ ↦ ⟨a, rfl⟩⟩
  | cons e es ih =>
    obtain ⟨key, s⟩ := e
    rw [List.forall_mem_cons]
    by_cases hkey : ∃ part ∈ parts, part.name = key
    · obtain ⟨part, hpart, rfl⟩ := hkey
      rw [h.readEntries_cons hpart]
      have hfirst : (∃ part' ∈ parts, part'.name = part.name ∧ ∃ b, part'.reader s = .ok b) ↔
          ∃ b, part.reader s = .ok b := by
        refine ⟨?_, fun hb ↦ ⟨part, hpart, rfl, hb⟩⟩
        rintro ⟨part', hpart', hname, hb⟩
        exact h.eq_of_name_eq hpart' hpart hname ▸ hb
      rw [hfirst]
      cases hs : part.reader s with
      | error e => simp
      | ok b => simpa using ih
    · have hunknown : ∀ part ∈ parts, part.name ≠ key := fun part hpart hname ↦
        hkey ⟨part, hpart, hname⟩
      rw [readEntries_cons_of_unknown hunknown]
      exact ⟨nofun, fun hall ↦ absurd hall.1 fun ⟨part, hpart, hname, _⟩ ↦
        hunknown part hpart hname⟩

/-- Each part is as the entry with its key says, and as it was if there is none. -/
theorem get_of_readEntries (h : Assembles parts default) (hpart : part ∈ parts)
    (hes : (es.map Prod.fst).Nodup)
    (hread : readEntries (parts.map Part.field) a es = .ok a') :
    (∀ s, es.lookup part.name = some s → part.reader s = .ok (part.get a')) ∧
      (es.lookup part.name = none → part.get a' = part.get a) := by
  induction es generalizing a with
  | nil => exact ⟨nofun, fun _ ↦ Except.ok.inj hread ▸ rfl⟩
  | cons e es ih =>
    obtain ⟨key, s⟩ := e
    obtain ⟨hkey, hothers⟩ := List.nodup_cons.1 hes
    obtain ⟨part', hpart', rfl, -⟩ := h.exists_readEntries_iff.1 ⟨a', hread⟩ _ List.mem_cons_self
    rw [h.readEntries_cons hpart'] at hread
    cases hs : part'.reader s with
    | error e => rw [hs] at hread; cases hread
    | ok b =>
      rw [hs] at hread
      obtain ⟨hsome, hnone⟩ := ih hothers hread
      rw [lookup_cons_eq_ite]
      by_cases hname : part.name = part'.name
      · -- the part that is read here does not come again
        obtain rfl := h.eq_of_name_eq hpart hpart' hname
        have habsent : es.lookup part.name = none := by
          refine Option.eq_none_iff_forall_ne_some.2 fun t ht ↦ hkey ?_
          exact List.mem_map.2 ⟨(part.name, t), mem_of_lookup ht, rfl⟩
        rw [if_pos rfl]
        refine ⟨fun t ht ↦ ?_, nofun⟩
        rw [← Option.some.inj ht, hnone habsent, h.get_put part hpart]
        exact hs
      · rw [if_neg hname]
        exact ⟨hsome, fun habsent ↦ (hnone habsent).trans
          (h.get_put_of_ne part hpart part' hpart' hname a b)⟩

end Assembles

/-! ### Sections -/

section

variable {parts : List (Part α)} {default : α} {part : Part α} {es : List (String × Setting)}

theorem mem_flatMap_leaves {leaf : Leaf α} : leaf ∈ parts.flatMap Part.leaves ↔
    ∃ part ∈ parts, ∃ leaf' ∈ part.within, leaf = leaf'.under part.name part.get := by
  simp only [List.mem_flatMap, Part.leaves, List.mem_map, eq_comm]

/-- What stands under the key of a part has sections where the part has. -/
theorem sectioned_of_lookup (h : Sectioned (parts.flatMap Part.leaves) (.table es))
    (hpart : part ∈ parts) {s : Setting} (hs : es.lookup part.name = some s) :
    Sectioned part.within s := by
  intro leaf hleaf
  obtain ⟨_, hes, hopen⟩ :=
    open_cons.1 (h _ (mem_flatMap_leaves.2 ⟨part, hpart, leaf, hleaf, rfl⟩))
  cases hes
  exact hopen s hs

/-- A path that begins with the key of a part leads to a leaf if the rest of it does in the part. -/
theorem Assembles.leads_cons_iff (h : Assembles parts default) (hpart : part ∈ parts)
    {path : List String} :
    Leads (parts.flatMap Part.leaves) (part.name :: path) ↔ Leads part.within path := by
  constructor
  · rintro ⟨leaf, hleaf, hpaths⟩
    obtain ⟨part', hpart', leaf', hleaf', rfl⟩ := mem_flatMap_leaves.1 hleaf
    rw [Leaf.under, List.cons_prefix_cons, List.cons_prefix_cons, eq_comm, ← and_or_left] at hpaths
    obtain ⟨hname, hpaths⟩ := hpaths
    obtain rfl := h.eq_of_name_eq hpart' hpart hname
    exact ⟨leaf', hleaf', hpaths⟩
  · rintro ⟨leaf, hleaf, hpaths⟩
    refine ⟨_, mem_flatMap_leaves.2 ⟨part, hpart, leaf, hleaf, rfl⟩, ?_⟩
    exact hpaths.imp (List.cons_prefix_cons.2 ⟨rfl, ·⟩) (List.cons_prefix_cons.2 ⟨rfl, ·⟩)

/-- A key that leads to a leaf is that of a part. -/
theorem exists_part_of_leads {key : String} {path : List String}
    (h : Leads (parts.flatMap Part.leaves) (key :: path)) : ∃ part ∈ parts, part.name = key := by
  obtain ⟨leaf, hleaf, hpaths⟩ := h
  obtain ⟨part, hpart, leaf', hleaf', rfl⟩ := mem_flatMap_leaves.1 hleaf
  exact ⟨part, hpart, hpaths.elim (fun hp ↦ (List.cons_prefix_cons.1 hp).1.symm)
    fun hp ↦ (List.cons_prefix_cons.1 hp).1⟩

theorem Assembles.exists_entries (h : Assembles parts default) {tree : Setting}
    (hsections : Sectioned (parts.flatMap Part.leaves) tree) : ∃ es, tree = .table es := by
  obtain ⟨leaf, hleaf⟩ := h.exists_leaf
  obtain ⟨part, hpart, leaf', hleaf', rfl⟩ := mem_flatMap_leaves.1 hleaf
  obtain ⟨es, hes, -⟩ := open_cons.1 (hsections _ hleaf)
  exact ⟨es, hes⟩

/-- The entries of a table are for parts that can read them if and only if every key is known and
every leaf well typed. -/
theorem Assembles.forall_entries_iff (h : Assembles parts default) (hordered : Ordered (.table es))
    (hsections : Sectioned (parts.flatMap Part.leaves) (.table es)) :
    (∀ e ∈ es, ∃ part ∈ parts, part.name = e.1 ∧ ∃ b, part.reader e.2 = .ok b) ↔
      KnowsKeys (parts.flatMap Part.leaves) (.table es) ∧
        WellTyped (parts.flatMap Part.leaves) (.table es) := by
  obtain ⟨hrising, hchildren⟩ := ordered_table.1 hordered
  have hpart_iff : ∀ {part s}, part ∈ parts → es.lookup part.name = some s →
      ((∃ b, part.reader s = .ok b) ↔ KnowsKeys part.within s ∧ WellTyped part.within s) :=
    fun hpart hs ↦ (h.reads _ hpart).exists_ok_iff (hchildren _ _ hs)
      (sectioned_of_lookup hsections hpart hs)
  constructor
  · intro hall
    have hread : ∀ {part s}, part ∈ parts → es.lookup part.name = some s →
        KnowsKeys part.within s ∧ WellTyped part.within s := by
      intro part s hpart hs
      obtain ⟨part', hpart', hname, hb⟩ := hall _ (mem_of_lookup hs)
      obtain rfl := h.eq_of_name_eq hpart' hpart hname
      exact (hpart_iff hpart hs).1 hb
    constructor
    · intro path hsome
      cases path with
      | nil =>
        obtain ⟨leaf, hleaf⟩ := h.exists_leaf
        exact ⟨leaf, hleaf, .inl List.nil_prefix⟩
      | cons key path =>
        obtain ⟨t, ht⟩ := Option.isSome_iff_exists.1 hsome
        obtain ⟨s, hs, hrest⟩ := Option.bind_eq_some_iff.1 ht
        obtain ⟨part, hpart, rfl, -⟩ := hall _ (mem_of_lookup hs)
        exact (h.leads_cons_iff hpart).2 ((hread hpart hs).1 path (Option.isSome_of_eq_some hrest))
    · intro leaf hleaf t ht
      obtain ⟨part, hpart, leaf', hleaf', rfl⟩ := mem_flatMap_leaves.1 hleaf
      obtain ⟨s, hs, ht⟩ := Option.bind_eq_some_iff.1 ht
      exact (hread hpart hs).2 leaf' hleaf' t ht
  · rintro ⟨hkeys, htyped⟩ ⟨key, s⟩ he
    have hs : es.lookup key = some s := hrising.lookup_eq_some_iff.2 he
    have hat : ∀ path, (Setting.table es).at? (key :: path) = s.at? path :=
      fun _ ↦ hrising.at?_cons he
    obtain ⟨part, hpart, rfl⟩ := exists_part_of_leads (hkeys [key] (by rw [hat, at?_nil]; rfl))
    refine ⟨part, hpart, rfl, (hpart_iff hpart hs).2 ⟨?_, ?_⟩⟩
    · intro path hsome
      exact (h.leads_cons_iff hpart).1 (hkeys _ (by rwa [hat]))
    · intro leaf hleaf t ht
      exact htyped _ (mem_flatMap_leaves.2 ⟨part, hpart, leaf, hleaf, rfl⟩) t ((hat _).trans ht)

/-- **A table is read leaf by leaf** if its parts are. -/
theorem reads_section (h : Assembles parts default) :
    Reads (readSection (parts.map Part.field) default) default (parts.flatMap Part.leaves) where
  exists_ok_iff := by
    intro tree hordered hsections
    obtain ⟨es, rfl⟩ := h.exists_entries hsections
    exact h.exists_readEntries_iff.trans (h.forall_entries_iff hordered hsections)
  holds := by
    intro tree a hordered hsections hread leaf hleaf
    obtain ⟨es, rfl⟩ := h.exists_entries hsections
    obtain ⟨hrising, hchildren⟩ := ordered_table.1 hordered
    obtain ⟨part, hpart, leaf', hleaf', rfl⟩ := mem_flatMap_leaves.1 hleaf
    obtain ⟨hsome, hnone⟩ := h.get_of_readEntries hpart hrising.nodup hread
    rw [Leaf.under, at?_table_cons]
    cases hs : es.lookup part.name with
    | none => exact congrArg leaf'.get (hnone hs)
    | some s =>
      exact (h.reads part hpart).holds (hchildren _ _ hs) (sectioned_of_lookup hsections hpart hs)
        (hsome s hs) leaf' hleaf'
  blames := by
    intro tree e hordered hsections hread
    obtain ⟨es, rfl⟩ := h.exists_entries hsections
    obtain ⟨hrising, hchildren⟩ := ordered_table.1 hordered
    obtain ⟨⟨key, s⟩, hentry, hunknown, rfl⟩ |
        ⟨⟨key, s⟩, hentry, part, hpart, hname, e', he', rfl⟩ :=
      h.exists_of_readEntries_error hread
    · refine .inr ⟨[], key, ?_, fun hleads ↦ ?_, rfl⟩
      · rw [List.nil_append, hrising.at?_cons hentry, at?_nil]
        rfl
      · obtain ⟨part, hpart, hname⟩ := exists_part_of_leads hleads
        exact hunknown part hpart hname
    · dsimp only at hname he'
      subst hname
      have hs := hrising.lookup_eq_some_iff.2 hentry
      obtain ⟨leaf, hleaf, t, ht, hadmits, rfl⟩ | ⟨path, key, hsome, hleads, rfl⟩ :=
        (h.reads part hpart).blames (hchildren _ _ hs) (sectioned_of_lookup hsections hpart hs) he'
      · refine .inl ⟨_, mem_flatMap_leaves.2 ⟨part, hpart, leaf, hleaf, rfl⟩, t, ?_, hadmits, rfl⟩
        exact (hrising.at?_cons hentry).trans ht
      · refine .inr ⟨part.name :: path, key, ?_, ?_, rfl⟩
        · rwa [List.cons_append, hrising.at?_cons hentry]
        · rwa [List.cons_append, h.leads_cons_iff hpart]

end

/-! ### The settings of a tenant -/

/-- The parts of the service token section. -/
def serviceTokenParts : List (Part ServiceTokenSettings) :=
  [ ⟨"client_id", text, (·.clientId), fun s v ↦ { s with clientId := v }, [.text [] id]⟩,
    ⟨"client_secret", text, (·.clientSecret), fun s v ↦ { s with clientSecret := v },
      [.text [] id]⟩,
    ⟨"audience", optionalText, (·.audience), fun s v ↦ { s with audience := v },
      [.optionalText [] id]⟩,
    ⟨"refresh_margin_secs", natural, (·.refreshMargin), fun s v ↦ { s with refreshMargin := v },
      [.natural [] id]⟩ ]

/-- The parts of the verifier section. -/
def verifierParts : List (Part VerifierSettings) :=
  [ ⟨"issuer", optionalText, (·.issuer), fun s v ↦ { s with issuer := v }, [.optionalText [] id]⟩,
    ⟨"audience", optionalText, (·.audience), fun s v ↦ { s with audience := v },
      [.optionalText [] id]⟩,
    ⟨"jwks_cache_ttl_secs", natural, (·.keySetLifetime), fun s v ↦ { s with keySetLifetime := v },
      [.natural [] id]⟩,
    ⟨"leeway_secs", natural, (·.leeway), fun s v ↦ { s with leeway := v }, [.natural [] id]⟩ ]

/-- The parts of the transport section. -/
def transportParts : List (Part TransportSettings) :=
  [ ⟨"timeout_secs", natural, (·.timeout), fun s v ↦ { s with timeout := v }, [.natural [] id]⟩,
    ⟨"connect_timeout_secs", natural, (·.connectTimeout), fun s v ↦ { s with connectTimeout := v },
      [.natural [] id]⟩ ]

/-- The parts of the root. -/
def rootParts : List (Part Settings) :=
  [ ⟨"domain", text, (·.domain), fun s v ↦ { s with domain := v }, [.text [] id]⟩,
    ⟨"m2m", serviceTokenSection, (·.serviceToken), fun s v ↦ { s with serviceToken := v },
      serviceTokenParts.flatMap Part.leaves⟩,
    ⟨"jwt", verifierSection, (·.verifier), fun s v ↦ { s with verifier := v },
      verifierParts.flatMap Part.leaves⟩,
    ⟨"http", transportSection, (·.transport), fun s v ↦ { s with transport := v },
      transportParts.flatMap Part.leaves⟩ ]

theorem assembles_serviceToken : Assembles serviceTokenParts {} where
  nodup := by decide
  get_put := by simp [serviceTokenParts]
  get_put_of_ne := by simp [serviceTokenParts]
  reads := by simp [serviceTokenParts, reads_text, reads_optionalText, reads_natural]
  exists_leaf := ⟨_, List.mem_cons_self⟩

theorem assembles_verifier : Assembles verifierParts {} where
  nodup := by decide
  get_put := by simp [verifierParts]
  get_put_of_ne := by simp [verifierParts]
  reads := by simp [verifierParts, reads_optionalText, reads_natural]
  exists_leaf := ⟨_, List.mem_cons_self⟩

theorem assembles_transport : Assembles transportParts {} where
  nodup := by decide
  get_put := by simp [transportParts]
  get_put_of_ne := by simp [transportParts]
  reads := by simp [transportParts, reads_natural]
  exists_leaf := ⟨_, List.mem_cons_self⟩

theorem assembles_root : Assembles rootParts {} where
  nodup := by decide
  get_put := by simp [rootParts]
  get_put_of_ne := by simp [rootParts]
  reads := by
    have hserviceToken : Reads serviceTokenSection {} (serviceTokenParts.flatMap Part.leaves) :=
      reads_section assembles_serviceToken
    have hverifier : Reads verifierSection {} (verifierParts.flatMap Part.leaves) :=
      reads_section assembles_verifier
    have htransport : Reads transportSection {} (transportParts.flatMap Part.leaves) :=
      reads_section assembles_transport
    simp [rootParts, reads_text, hserviceToken, hverifier, htransport]
  exists_leaf := ⟨_, List.mem_cons_self⟩

/-- **The settings are read leaf by leaf.** -/
theorem reads_ofSetting : Reads ofSetting {} leaves := reads_section assembles_root

end AccountDirectory.Settings
