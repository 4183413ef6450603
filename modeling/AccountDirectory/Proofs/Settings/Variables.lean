import AccountDirectory.Proofs.Settings.Leaves
import AccountDirectory.Proofs.Text.Blank
import AccountDirectory.Settings.Environment

/-!
# Variables that name leaves

The variable of a leaf begins with `USER_DIRECTORY_`, and has two underscores between the keys of
the leaf's path (`Leaf.variableName`). Any case will do (`Leaf.NamedBy`). Other variables are none
of the settings' (`Foreign`).

If each variable is foreign, or names a leaf and has a value of the leaf's type (`IsOverride`), then
the environment is a tree with sections that knows its keys, and it holds at each leaf the value of
the last variable that names the leaf (`isOverlay_ofEnvironment`).
-/

namespace AccountDirectory.Settings

open Setting Setting.Variable

/-! ### Names -/

/-- The name of the variable for a leaf, in small letters. -/
def Leaf.variableName (leaf : Leaf Settings) : String :=
  "user_directory_" ++ "__".intercalate leaf.path

/-- **The variable is that of the leaf**, in any case. -/
def Leaf.NamedBy (leaf : Leaf Settings) (name : String) : Prop :=
  Text.asciiLower name.toList = leaf.variableName.toList

instance (leaf : Leaf Settings) (name : String) : Decidable (leaf.NamedBy name) :=
  inferInstanceAs (Decidable (_ = _))

/-- The name of the variable does not begin as those of settings do. -/
def Foreign (name : String) : Prop := ¬leading <+: Text.asciiLower (Text.trimBoth name.toList)

theorem path?_of_foreign {name : String} (h : Foreign name) : path? name = none := by
  rw [path?]
  exact if_neg fun hleading ↦ h (List.isPrefixOf_iff_prefix.1 hleading)

theorem path?_congr {name name' : String}
    (h : Text.asciiLower name.toList = Text.asciiLower name'.toList) :
    path? name = path? name' := by
  rw [path?, path?, Text.asciiLower_trimBoth, Text.asciiLower_trimBoth, h]

/-- The variable of a leaf leads to the leaf. -/
theorem path?_of_namedBy {leaf : Leaf Settings} {name : String} (hleaf : leaf ∈ leaves)
    (hname : leaf.NamedBy name) : path? name = some leaf.path := by
  have hvariables : ∀ leaf ∈ leaves,
      Text.asciiLower leaf.variableName.toList = leaf.variableName.toList ∧
        path? leaf.variableName = some leaf.path := by decide +kernel
  obtain ⟨hsmall, hpath⟩ := hvariables leaf hleaf
  rw [path?_congr (hname.trans hsmall.symm), hpath]

/-- A variable names one leaf at most. -/
theorem eq_of_namedBy {leaf leaf' : Leaf Settings} {name : String} (hleaf : leaf ∈ leaves)
    (hleaf' : leaf' ∈ leaves) (h : leaf.NamedBy name) (h' : leaf'.NamedBy name) : leaf = leaf' := by
  have hpaths : some leaf.path = some leaf'.path :=
    (path?_of_namedBy hleaf h).symm.trans (path?_of_namedBy hleaf' h')
  exact eq_of_path_isPrefix hleaf hleaf' (Option.some.inj hpaths ▸ List.prefix_rfl)

theorem not_namedBy_of_foreign {leaf : Leaf Settings} {name : String} (hleaf : leaf ∈ leaves)
    (h : Foreign name) : ¬leaf.NamedBy name := by
  intro hname
  have hpath := path?_of_namedBy hleaf hname
  rw [path?_of_foreign h] at hpath
  cases hpath

/-! ### Environments -/

/-- **What the environment gives a leaf**: the value of the last variable that names it. -/
def Leaf.given (leaf : Leaf Settings) (environment : List (String × String)) : Option Setting :=
  (environment.reverse.find? (leaf.NamedBy ·.1)).map (ofText ·.2)

/-- **Each variable of a leaf has a value of the leaf's type**, and all others are foreign. -/
def IsOverride (environment : List (String × String)) : Prop :=
  ∀ name value, (name, value) ∈ environment → Foreign name ∨
    ∃ leaf ∈ leaves, leaf.NamedBy name ∧ ∃ v, leaf.type.Admits (ofText value) v

variable {environment : List (String × String)} {leaf leaf' : Leaf Settings}
  {name value : String} {s : Setting}

theorem given_concat : leaf.given (environment ++ [(name, value)]) =
    if leaf.NamedBy name then some (ofText value) else leaf.given environment := by
  rw [Leaf.given, List.reverse_append, List.reverse_singleton, List.singleton_append,
    List.find?_cons]
  split
  · next h => rw [if_pos (of_decide_eq_true h), Option.map_some]
  · next h => rw [if_neg (of_decide_eq_false h), Leaf.given]

theorem ofEnvironment_concat : ofEnvironment (environment ++ [(name, value)]) =
    match path? name with
    | some path => (nested path (ofText value)).layeredOver (ofEnvironment environment)
    | none => ofEnvironment environment := by
  rw [ofEnvironment, List.foldl_append]
  rfl

/-- **A layer of leaves**: a tree with sections that knows its keys and holds these settings. -/
structure IsOverlay (tree : Setting) (given : Leaf Settings → Option Setting) : Prop where
  ordered : tree.Ordered
  sectioned : Sectioned leaves tree
  knowsKeys : KnowsKeys leaves tree
  at?_path : ∀ leaf ∈ leaves, tree.at? leaf.path = given leaf

/-- One setting at the leaf that a variable names is a layer. -/
theorem isOverlay_nested (hleaf : leaf ∈ leaves) (hname : leaf.NamedBy name) (hs : s.Ordered) :
    IsOverlay (nested leaf.path s) fun leaf' ↦ if leaf'.NamedBy name then some s else none where
  ordered := ordered_nested hs _
  sectioned := by
    intro leaf' hleaf' above key below hpath t ht
    obtain ⟨-, -, -, htable⟩ | ⟨rest, rfl⟩ := at?_nested_cases ht
    · exact htable
    · -- there is no leaf behind this one
      have heq : leaf = leaf' := eq_of_path_isPrefix hleaf hleaf' ⟨rest ++ key :: below, by
        rw [hpath, List.append_assoc]⟩
      have hlength := congrArg List.length (heq ▸ hpath)
      simp at hlength
  knowsKeys := by
    intro path hsome
    obtain ⟨t, ht⟩ := Option.isSome_iff_exists.1 hsome
    obtain ⟨key, rest, hpath, -⟩ | ⟨rest, rfl⟩ := at?_nested_cases ht
    · exact ⟨leaf, hleaf, .inl ⟨key :: rest, hpath.symm⟩⟩
    · exact ⟨leaf, hleaf, .inr (List.prefix_append _ _)⟩
  at?_path := by
    intro leaf' hleaf'
    split
    · next hname' => rw [eq_of_namedBy hleaf' hleaf hname' hname, at?_nested]
    · next hname' =>
      refine Option.eq_none_iff_forall_ne_some.2 fun t ht ↦ hname' ?_
      obtain ⟨key, rest, hrest, -⟩ | ⟨rest, hrest⟩ := at?_nested_cases ht
      · rwa [eq_of_path_isPrefix hleaf' hleaf ⟨key :: rest, hrest.symm⟩]
      · rwa [← eq_of_path_isPrefix hleaf hleaf' ⟨rest, hrest.symm⟩]

/-- A layer of leaves goes over any other tree with sections leaf by leaf, unless it has a table
where the other one has a table too. -/
theorem IsOverlay.at?_layeredOver {upper lower : Setting} {given : Leaf Settings → Option Setting}
    (hupper : IsOverlay upper given) (hlower : Sectioned leaves lower) (hleaf : leaf ∈ leaves)
    (hgiven : ∀ s t, given leaf = some s → lower.at? leaf.path = some t → s.layeredOver t = s) :
    (upper.layeredOver lower).at? leaf.path = (given leaf).or (lower.at? leaf.path) := by
  rw [Setting.at?_layeredOver (hupper.sectioned leaf hleaf) (hlower leaf hleaf),
    hupper.at?_path leaf hleaf]
  cases hs : given leaf with
  | none => rw [Option.merge_none_left, Option.none_or]
  | some s =>
    rw [Option.some_or]
    cases ht : lower.at? leaf.path with
    | none => rfl
    | some t => exact congrArg some (hgiven s t hs ht)

/-- Over a tree that is well typed a layer goes leaf by leaf, whatever it holds. -/
theorem IsOverlay.at?_layeredOver_of_wellTyped {upper lower : Setting}
    {given : Leaf Settings → Option Setting} (hupper : IsOverlay upper given)
    (hlower : Sectioned leaves lower) (htyped : WellTyped leaves lower) (hleaf : leaf ∈ leaves) :
    (upper.layeredOver lower).at? leaf.path = (given leaf).or (lower.at? leaf.path) := by
  refine hupper.at?_layeredOver hlower hleaf fun s t _ ht ↦ ?_
  -- the lower tree has no table there
  obtain ⟨v, hv⟩ := htyped leaf hleaf t ht
  obtain heq | ⟨es, es', rfl, rfl⟩ := layeredOver_cases s t
  · exact heq
  · exact absurd trivial hv.not_isTable

theorem IsOverlay.layeredOver {upper lower : Setting}
    {given given' : Leaf Settings → Option Setting}
    (hupper : IsOverlay upper given) (hlower : IsOverlay lower given')
    (hgiven : ∀ leaf ∈ leaves, ∀ s t, given leaf = some s → given' leaf = some t →
      s.layeredOver t = s) :
    IsOverlay (upper.layeredOver lower) fun leaf ↦ (given leaf).or (given' leaf) where
  ordered := hupper.ordered.layeredOver hlower.ordered
  sectioned := hupper.sectioned.layeredOver hlower.sectioned
  knowsKeys := (knowsKeys_layeredOver hupper.sectioned hlower.sectioned hupper.knowsKeys).2
    hlower.knowsKeys
  at?_path := by
    intro leaf hleaf
    rw [hupper.at?_layeredOver hlower.sectioned hleaf, hlower.at?_path leaf hleaf]
    rw [hlower.at?_path leaf hleaf]
    exact hgiven leaf hleaf

theorem IsOverride.admits (h : IsOverride environment) (hleaf : leaf ∈ leaves)
    (hs : leaf.given environment = some s) : ∃ v, leaf.type.Admits s v := by
  obtain ⟨⟨name, value⟩, hfind, rfl⟩ := Option.map_eq_some_iff.1 hs
  have hname : leaf.NamedBy name := by simpa using List.find?_some hfind
  have hmem : (name, value) ∈ environment := List.mem_reverse.1 (List.mem_of_find?_eq_some hfind)
  obtain hforeign | ⟨leaf', hleaf', hname', v, hv⟩ := h name value hmem
  · exact absurd hname (not_namedBy_of_foreign hleaf hforeign)
  · obtain rfl := eq_of_namedBy hleaf' hleaf hname' hname
    exact ⟨v, hv⟩

/-- What is given to a leaf hides what is below it. -/
theorem IsOverride.layeredOver_eq (h : IsOverride environment) (hleaf : leaf ∈ leaves)
    (hs : leaf.given environment = some s) (t : Setting) : s.layeredOver t = s :=
  (h.admits hleaf hs).elim fun _ hv ↦ layeredOver_of_not_isTable hv.not_isTable

theorem isOverlay_empty : IsOverlay (.table []) fun _ ↦ none := by
  have hat : ∀ {path t}, (Setting.table []).at? path = some t → path = [] ∧ t = .table [] := by
    intro path t ht
    cases path with
    | nil => exact ⟨rfl, (Option.some.inj (at?_nil.symm.trans ht)).symm⟩
    | cons key path => cases ht
  constructor
  · exact ordered_table.2 ⟨.nil, nofun⟩
  · intro leaf _ above key below _ t ht
    exact (hat ht).2 ▸ trivial
  · intro path hsome
    obtain ⟨t, ht⟩ := Option.isSome_iff_exists.1 hsome
    exact ⟨_, List.mem_cons_self, .inl ((hat ht).1 ▸ List.nil_prefix)⟩
  · intro leaf hleaf
    have hpaths : ∀ leaf ∈ leaves, leaf.path ≠ [] := by decide
    exact Option.eq_none_iff_forall_ne_some.2 fun t ht ↦ hpaths leaf hleaf (hat ht).1

/-- **The environment is a layer of leaves**, each with the last value that it is given. -/
theorem isOverlay_ofEnvironment (h : IsOverride environment) :
    IsOverlay (ofEnvironment environment) (·.given environment) := by
  induction environment using List.reverseRecOn with
  | nil => exact isOverlay_empty
  | append_singleton environment last ih =>
    obtain ⟨name, value⟩ := last
    have hbefore : IsOverride environment :=
      fun name value hmem ↦ h name value (List.mem_append_left _ hmem)
    have hlower := ih hbefore
    rw [ofEnvironment_concat]
    obtain hforeign | ⟨leaf, hleaf, hname, v, hv⟩ := h name value (by simp)
    · rw [path?_of_foreign hforeign]
      refine { hlower with at?_path := fun leaf hleaf ↦ ?_ }
      rw [given_concat, if_neg (not_namedBy_of_foreign hleaf hforeign)]
      exact hlower.at?_path leaf hleaf
    · rw [path?_of_namedBy hleaf hname]
      have hupper := isOverlay_nested hleaf hname (ordered_of_not_isTable hv.not_isTable)
      have hlayers := hupper.layeredOver hlower fun leaf' _ s t hs _ ↦ by
        split at hs
        · exact Option.some.inj hs ▸ layeredOver_of_not_isTable hv.not_isTable
        · cases hs
      refine { hlayers with at?_path := fun leaf' hleaf' ↦ ?_ }
      rw [hlayers.at?_path leaf' hleaf', given_concat]
      split
      · rw [Option.some_or]
      · rw [Option.none_or]

/-- **An environment of one variable** for a leaf is a layer, whatever the value. -/
theorem isOverlay_single (hleaf : leaf ∈ leaves) (hname : leaf.NamedBy name)
    (hvalue : (ofText value).Ordered) : IsOverlay (ofEnvironment [(name, value)])
      fun leaf' ↦ if leaf'.NamedBy name then some (ofText value) else none := by
  have hlayers := (isOverlay_nested hleaf hname hvalue).layeredOver isOverlay_empty nofun
  have hsingle : ofEnvironment [(name, value)] =
      (nested leaf.path (ofText value)).layeredOver (.table []) := by
    have hconcat := @ofEnvironment_concat [] name value
    rw [path?_of_namedBy hleaf hname] at hconcat
    exact hconcat
  rw [hsingle]
  refine { hlayers with at?_path := fun leaf' hleaf' ↦ ?_ }
  rw [hlayers.at?_path leaf' hleaf', Option.or_none]

end AccountDirectory.Settings
