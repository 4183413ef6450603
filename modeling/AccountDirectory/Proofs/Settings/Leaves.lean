import AccountDirectory.Proofs.Settings.Tables
import Mathlib.Data.List.Nodup

/-!
# The leaves of the settings

The settings of a tenant are a table of sections with leaves in them (`leaves`). A leaf stands at
the end of a path of keys and has a type, which says what settings it takes and for which value
(`LeafType.Admits`).

For a tree of settings there are three questions, none of which is about a reader:

* is nothing but tables where a section may stand (`Sectioned`)?
* does every key lead to a leaf (`KnowsKeys`)?
* has what stands at a leaf the leaf's type (`WellTyped`)?

A failure to read the tree has to name a key or a leaf for which the answer is no (`Blames`).

One layer with sections over another has sections again (`Sectioned.layeredOver`), and if the upper
one knows its keys, then the keys of both are known if and only if those of the lower one are
(`knowsKeys_layeredOver`).
-/

namespace AccountDirectory.Settings

open Setting

/-! ### Types of leaves -/

/-- What a leaf of the settings holds. -/
inductive LeafValue
  | text (s : String)
  | natural (n : Nat)
  | nothing
  deriving DecidableEq

/-- The types of leaves. -/
inductive LeafType
  | text
  | optionalText
  | natural
  deriving DecidableEq

/-- **The setting is of the type**, with this value. -/
inductive LeafType.Admits : LeafType → Setting → LeafValue → Prop
  | text (s : String) : Admits .text (.text s) (.text s)
  | given (s : String) : Admits .optionalText (.text s) (.text s)
  | nothing : Admits .optionalText .empty .nothing
  | natural {n : Nat} (h : n < 2 ^ 64) : Admits .natural (.integer n) (.natural n)

/-- A setting has one value at most. -/
theorem LeafType.Admits.unique {type : LeafType} {s : Setting} {v w : LeafValue}
    (hv : type.Admits s v) (hw : type.Admits s w) : v = w := by
  cases hv <;> cases hw <;> rfl

theorem LeafType.Admits.not_isTable {type : LeafType} {s : Setting} {v : LeafValue}
    (h : type.Admits s v) : ¬s.IsTable := by
  cases h <;> exact id

/-- What is wrong with a setting that is not of the type: for a natural, a negative integer of 64
bits has only the wrong value. -/
def LeafType.fault : LeafType → Setting → SettingsFault
  | .natural, .integer n => if -0x8000000000000000 ≤ n ∧ n < 0 then .invalidValue else .invalidType
  | _, _ => .invalidType

/-! ### Leaves -/

/-- A leaf of a record of settings. -/
structure Leaf (α : Type) where
  /-- The keys that lead to it. -/
  path : List String
  type : LeafType
  /-- What the record holds there. -/
  get : α → LeafValue

/-- A leaf that is a text. -/
def Leaf.text {α : Type} (path : List String) (get : α → String) : Leaf α :=
  ⟨path, .text, fun a ↦ .text (get a)⟩

/-- A leaf that is a text or nothing. -/
def Leaf.optionalText {α : Type} (path : List String) (get : α → Option String) : Leaf α :=
  ⟨path, .optionalText, fun a ↦ (get a).elim .nothing .text⟩

/-- A leaf that is a natural of 64 bits. -/
def Leaf.natural {α : Type} (path : List String) (get : α → Nat) : Leaf α :=
  ⟨path, .natural, fun a ↦ .natural (get a)⟩

/-- **The leaves of the settings.** -/
def leaves : List (Leaf Settings) :=
  [ .text ["domain"] (·.domain),
    .text ["m2m", "client_id"] (·.serviceToken.clientId),
    .text ["m2m", "client_secret"] (·.serviceToken.clientSecret),
    .optionalText ["m2m", "audience"] (·.serviceToken.audience),
    .natural ["m2m", "refresh_margin_secs"] (·.serviceToken.refreshMargin),
    .optionalText ["jwt", "issuer"] (·.verifier.issuer),
    .optionalText ["jwt", "audience"] (·.verifier.audience),
    .natural ["jwt", "jwks_cache_ttl_secs"] (·.verifier.keySetLifetime),
    .natural ["jwt", "leeway_secs"] (·.verifier.leeway),
    .natural ["http", "timeout_secs"] (·.transport.timeout),
    .natural ["http", "connect_timeout_secs"] (·.transport.connectTimeout) ]

/-- No leaf stands behind another one. -/
theorem eq_of_path_isPrefix {leaf leaf' : Leaf Settings} (h : leaf ∈ leaves) (h' : leaf' ∈ leaves)
    (hpaths : leaf.path <+: leaf'.path) : leaf = leaf' := by
  have hapart : ∀ path ∈ leaves.map Leaf.path, ∀ path' ∈ leaves.map Leaf.path,
      path <+: path' → path = path' := by decide
  have hnodup : (leaves.map Leaf.path).Nodup := by decide
  exact List.inj_on_of_nodup_map hnodup h h'
    (hapart _ (List.mem_map_of_mem h) _ (List.mem_map_of_mem h') hpaths)

/-! ### Trees of settings -/

variable {α : Type} {L : List (Leaf α)} {path : List String} {tree upper lower : Setting}

/-- **Where a section may stand**, there is a table or nothing, and at the root there is a table. -/
def Sectioned (L : List (Leaf α)) (tree : Setting) : Prop := ∀ leaf ∈ L, tree.Open leaf.path

/-- The path is part of the path to a leaf, or goes on behind one. -/
def Leads (L : List (Leaf α)) (path : List String) : Prop :=
  ∃ leaf ∈ L, path <+: leaf.path ∨ leaf.path <+: path

/-- **Every key is known**: each path of keys in the tree leads to a leaf. -/
def KnowsKeys (L : List (Leaf α)) (tree : Setting) : Prop :=
  ∀ path, (tree.at? path).isSome → Leads L path

/-- What stands at the end of a leaf's path is of the leaf's type. -/
def WellTyped (L : List (Leaf α)) (tree : Setting) : Prop :=
  ∀ leaf ∈ L, ∀ s, tree.at? leaf.path = some s → ∃ v, leaf.type.Admits s v

/-- **The failure names its cause**: a leaf whose setting is not of its type, or a key that is not
known. -/
def Blames (L : List (Leaf α)) (tree : Setting) (e : SettingsError) : Prop :=
  (∃ leaf ∈ L, ∃ s, tree.at? leaf.path = some s ∧ (∀ v, ¬leaf.type.Admits s v) ∧
      e = ⟨leaf.type.fault s, leaf.path⟩) ∨
    ∃ path key, (tree.at? (path ++ [key])).isSome ∧ ¬Leads L (path ++ [key]) ∧
      e = ⟨.unknownField key, path ++ [key]⟩

/-- **The record holds at the leaf** what was set there, or the default if nothing was. -/
def Leaf.Holds (leaf : Leaf α) (default a : α) : Option Setting → Prop
  | some s => leaf.type.Admits s (leaf.get a)
  | none => leaf.get a = leaf.get default

/-! ### Layers -/

theorem Sectioned.layeredOver (hupper : Sectioned L upper) (hlower : Sectioned L lower) :
    Sectioned L (upper.layeredOver lower) := by
  intro leaf hleaf above key below hpath t ht
  have hopen : ∀ {s : Setting}, Sectioned L s → s.Open above := by
    intro s h
    have hleafopen := h leaf hleaf
    rw [hpath] at hleafopen
    exact hleafopen.of_append
  rw [at?_layeredOver (hopen hupper) (hopen hlower)] at ht
  have hu := hupper leaf hleaf above key below hpath
  have hl := hlower leaf hleaf above key below hpath
  cases hs : upper.at? above with
  | none =>
    rw [hs, Option.merge_none_left] at ht
    exact hl t ht
  | some s =>
    obtain ⟨es, rfl⟩ := isTable_iff.1 (hu s hs)
    cases hs' : lower.at? above with
    | none =>
      rw [hs, hs', Option.merge_none_right, Option.some.injEq] at ht
      exact ht ▸ trivial
    | some s' =>
      obtain ⟨es', rfl⟩ := isTable_iff.1 (hl s' hs')
      rw [hs, hs', Option.merge, Option.some.injEq, layeredOver_table] at ht
      exact ht ▸ trivial

/-- A path that leads to no leaf is open in a tree that knows its keys. -/
theorem Sectioned.open_of_not_leads (h : Sectioned L tree) (hkeys : KnowsKeys L tree)
    (hpath : ¬Leads L path) : tree.Open path := by
  intro above key below heq t ht
  have habove : above <+: path := ⟨key :: below, heq.symm⟩
  obtain ⟨leaf, hleaf, ⟨rest, hrest⟩ | hbehind⟩ := hkeys above (by rw [ht]; rfl)
  · cases rest with
    | nil =>
      rw [List.append_nil] at hrest
      exact absurd ⟨leaf, hleaf, .inr (hrest ▸ habove)⟩ hpath
    | cons key' rest => exact h leaf hleaf above key' rest hrest.symm t ht
  · exact absurd ⟨leaf, hleaf, .inr (hbehind.trans habove)⟩ hpath

/-- **Keys are known in both layers** if they are in the lower one, for the upper one's are. -/
theorem knowsKeys_layeredOver (hupper : Sectioned L upper) (hlower : Sectioned L lower)
    (hkeys : KnowsKeys L upper) : KnowsKeys L (upper.layeredOver lower) ↔ KnowsKeys L lower := by
  constructor
  · intro h path hsome
    by_contra hpath
    refine hpath (h path ?_)
    rw [at?_layeredOver (hupper.open_of_not_leads hkeys hpath) (open_of_isSome hsome)]
    cases hs : upper.at? path with
    | none => rwa [Option.merge_none_left]
    | some s => exact absurd (hkeys path (by rw [hs]; rfl)) hpath
  · intro h path hsome
    by_contra hpath
    rw [at?_layeredOver (hupper.open_of_not_leads hkeys hpath)
      (hlower.open_of_not_leads h hpath)] at hsome
    cases hs : upper.at? path with
    | none =>
      rw [hs, Option.merge_none_left] at hsome
      exact hpath (h path hsome)
    | some s => exact hpath (hkeys path (by rw [hs]; rfl))

end AccountDirectory.Settings
