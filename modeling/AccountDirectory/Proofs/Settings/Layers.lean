import AccountDirectory.Proofs.Settings.Files
import AccountDirectory.Proofs.Settings.Sections
import AccountDirectory.Proofs.Settings.Variables
import AccountDirectory.Settings.Load
import Mathlib

/-!
# Settings in layers

The settings are loaded leaf by leaf (`load_byLeaf`). Each leaf has the value that the environment
gives it, else what the file says, else its default. So a variable changes its own leaf and no
other, and hides what the file has there, of whatever type that is. All other values have to be of
the type of their leaf, and all keys known, for the settings to be loaded.

This is said of the tree that a file stands for. What is written in a file is another matter: a key
that is reserved for how values are told apart from their sources is no setting, and stands where no
other unknown key may (`not_only_known_keys`).
-/

namespace AccountDirectory.Settings

open Setting Setting.Variable

section

variable {file : Option String} {root : Setting} {environment : List (String × String)}
  {settings settings' : Settings} {leaf : Leaf Settings}

/-- The tree of a file, or of none, is in order. -/
theorem ordered_of_file (h : file.elim (some (.table [])) ofFile? = some root) : root.Ordered := by
  cases file with
  | none => exact Option.some.inj h ▸ ordered_table.2 ⟨.nil, nofun⟩
  | some content => exact ordered_of_ofFile? h

theorem load_eq (h : file.elim (some (.table [])) ofFile? = some root)
    (environment : List (String × String)) :
    load file environment = ofSetting ((ofEnvironment environment).layeredOver root) := by
  rw [load, h]

/-- A record holds one value at a leaf, whatever was set there. -/
theorem Leaf.Holds.get_eq {s : Option Setting} (h : leaf.Holds {} settings s)
    (h' : leaf.Holds {} settings' s) : leaf.get settings = leaf.get settings' := by
  cases s with
  | none => exact h.trans h'.symm
  | some s => exact h.unique h'

/-! ### Leaf by leaf -/

/-- Every value of the file that is not overridden is of its leaf's type. -/
def IsSound (environment : List (String × String)) (root : Setting) : Prop :=
  ∀ leaf ∈ leaves, leaf.given environment = none →
    ∀ s, root.at? leaf.path = some s → ∃ v, leaf.type.Admits s v

/-- **Settings are loaded leaf by leaf** from the tree of a file and the environment. -/
structure LoadsByLeaf (file : Option String) (root : Setting)
    (environment : List (String × String)) : Prop where
  /-- All keys of the file have to be known, and its values that are not overridden well typed. -/
  exists_ok_iff : (∃ settings, load file environment = .ok settings) ↔
    KnowsKeys leaves root ∧ IsSound environment root
  /-- Each leaf has what the environment gives it, else what the file does, else its default. -/
  holds : ∀ settings, load file environment = .ok settings → ∀ leaf ∈ leaves,
    leaf.Holds {} settings ((leaf.given environment).or (root.at? leaf.path))
  /-- One more variable sets its own leaf and no other. -/
  changes : ∀ settings, load file environment = .ok settings → ∀ leaf ∈ leaves, ∀ name value,
    leaf.NamedBy name → (∃ v, leaf.type.Admits (ofText value) v) →
      ∃ settings', load file (environment ++ [(name, value)]) = .ok settings' ∧
        leaf.type.Admits (ofText value) (leaf.get settings') ∧
        ∀ other ∈ leaves, other ≠ leaf → other.get settings' = other.get settings

theorem exists_load_iff (hfile : file.elim (some (.table [])) ofFile? = some root)
    (hroot : Sectioned leaves root) (henvironment : IsOverride environment) :
    (∃ settings, load file environment = .ok settings) ↔
      KnowsKeys leaves root ∧ IsSound environment root := by
  have hupper := isOverlay_ofEnvironment henvironment
  rw [load_eq hfile, reads_ofSetting.exists_ok_iff
    (hupper.ordered.layeredOver (ordered_of_file hfile)) (hupper.sectioned.layeredOver hroot),
    knowsKeys_layeredOver hupper.sectioned hroot hupper.knowsKeys]
  refine and_congr_right fun _ ↦ forall₂_congr fun leaf hleaf ↦ ?_
  rw [hupper.at?_layeredOver hroot hleaf fun s t hs _ ↦ henvironment.layeredOver_eq hleaf hs t]
  cases hs : leaf.given environment with
  | none => simp
  | some s => simpa using henvironment.admits hleaf hs

theorem holds_of_load (hfile : file.elim (some (.table [])) ofFile? = some root)
    (hroot : Sectioned leaves root) (henvironment : IsOverride environment)
    (hload : load file environment = .ok settings) (hleaf : leaf ∈ leaves) :
    leaf.Holds {} settings ((leaf.given environment).or (root.at? leaf.path)) := by
  have hupper := isOverlay_ofEnvironment henvironment
  rw [load_eq hfile] at hload
  have hholds := reads_ofSetting.holds (hupper.ordered.layeredOver (ordered_of_file hfile))
    (hupper.sectioned.layeredOver hroot) hload leaf hleaf
  rwa [hupper.at?_layeredOver hroot hleaf fun s t hs _ ↦
    henvironment.layeredOver_eq hleaf hs t] at hholds

/-- One more variable sets its own leaf and no other. -/
theorem exists_load_concat (hfile : file.elim (some (.table [])) ofFile? = some root)
    (hroot : Sectioned leaves root) (henvironment : IsOverride environment)
    (hload : load file environment = .ok settings) (hleaf : leaf ∈ leaves) {name value : String}
    (hname : leaf.NamedBy name) (hvalue : ∃ v, leaf.type.Admits (ofText value) v) :
    ∃ settings', load file (environment ++ [(name, value)]) = .ok settings' ∧
      leaf.type.Admits (ofText value) (leaf.get settings') ∧
      ∀ other ∈ leaves, other ≠ leaf → other.get settings' = other.get settings := by
  have hmore : IsOverride (environment ++ [(name, value)]) := by
    intro name' value' hmem
    obtain hmem | hlast := List.mem_append.1 hmem
    · exact henvironment name' value' hmem
    · obtain ⟨rfl, rfl⟩ := Prod.mk.inj (List.mem_singleton.1 hlast)
      exact .inr ⟨leaf, hleaf, hname, hvalue⟩
  obtain ⟨hknown, hbefore⟩ := (exists_load_iff hfile hroot henvironment).1 ⟨settings, hload⟩
  have hsound : IsSound (environment ++ [(name, value)]) root := by
    intro other hother hgiven
    rw [given_concat] at hgiven
    split at hgiven
    · cases hgiven
    · exact hbefore other hother hgiven
  obtain ⟨settings', hload'⟩ := (exists_load_iff hfile hroot hmore).2 ⟨hknown, hsound⟩
  refine ⟨settings', hload', ?_, fun other hother hne ↦ ?_⟩
  · have hholds := holds_of_load hfile hroot hmore hload' hleaf
    rwa [given_concat, if_pos hname] at hholds
  · have hholds := holds_of_load hfile hroot hmore hload' hother
    rw [given_concat, if_neg fun h ↦ hne (eq_of_namedBy hother hleaf h hname)] at hholds
    exact hholds.get_eq (holds_of_load hfile hroot henvironment hload hother)

/-- **Settings are loaded leaf by leaf**, if there is nothing but tables where sections may stand,
and each variable is foreign, or names a leaf and has a value of its type. -/
theorem load_byLeaf (hfile : file.elim (some (.table [])) ofFile? = some root)
    (hroot : Sectioned leaves root) (henvironment : IsOverride environment) :
    LoadsByLeaf file root environment where
  exists_ok_iff := exists_load_iff hfile hroot henvironment
  holds := fun _ hload _ hleaf ↦ holds_of_load hfile hroot henvironment hload hleaf
  changes := fun _ hload _ hleaf _ _ hname hvalue ↦
    exists_load_concat hfile hroot henvironment hload hleaf hname hvalue

end

namespace Sample

/-- A file whose domain is no text. -/
def content : String := "domain: 7\nm2m: \x7bclient_id: a\x7d\n"

/-- The tree that the file stands for. -/
def tree : Setting := .table [("domain", .integer 7), ("m2m", .table [("client_id", .text "a")])]

/-- An environment with a domain. -/
def overrides : List (String × String) :=
  [("PATH", "/bin"), ("User_Directory_DOMAIN", "tenant")]

theorem ofFile?_content : ofFile? content = some tree := by cbv

theorem sectioned_tree : Sectioned leaves tree := by
  simp [Sectioned, leaves, tree, Leaf.text, Leaf.optionalText, Leaf.natural, open_cons, open_nil,
    lookup_cons_eq_ite]

theorem isOverride_overrides : IsOverride overrides := by
  intro name value hmem
  obtain hpath | hdomain := List.mem_cons.1 hmem
  · obtain ⟨rfl, rfl⟩ := Prod.mk.inj hpath
    exact .inl (by decide +kernel : ¬leading <+: Text.asciiLower (Text.trimBoth "PATH".toList))
  · obtain ⟨rfl, rfl⟩ := Prod.mk.inj (List.mem_singleton.1 hdomain)
    have hvalue : ofText "tenant" = .text "tenant" := by cbv
    have hname : (Leaf.text ["domain"] (·.domain)).NamedBy "User_Directory_DOMAIN" := by
      decide +kernel
    exact .inr ⟨_, List.mem_cons_self, hname, .text "tenant", hvalue ▸ .text _⟩

theorem loadsByLeaf : (some content).elim (some (.table [])) ofFile? = some tree ∧
    Sectioned leaves tree ∧ IsOverride overrides ∧ LoadsByLeaf (some content) tree overrides := by
  have hfile : (some content).elim (some (.table [])) ofFile? = some tree := by
    rw [Option.elim_some, ofFile?_content]
  exact ⟨hfile, sectioned_tree, isOverride_overrides,
    load_byLeaf hfile sectioned_tree isOverride_overrides⟩

end Sample

/-! ### What is written in a file -/

/-- The node stands in the other one behind these keys, from table to table. -/
def Stands : Yaml.Node → List String → Yaml.Node → Prop
  | node, [], value => node = value
  | .table _ entries, key :: path, value =>
    ∃ p plain next, (Yaml.Node.scalar p plain key, next) ∈ entries ∧ Stands next path value
  | _, _ :: _, _ => False

/-- What stands in the node where a section may stand is a table. -/
def WritesSections (node : Yaml.Node) : Prop :=
  ∀ leaf ∈ leaves, ∀ above key below, leaf.path = above ++ key :: below →
    ∀ value, Stands node above value → ∃ p entries, value = .table p entries

namespace Sample

/-- A file that gives a client in the way in which values are told apart from their sources. -/
def reserved : String := "m2m: \x7b___figment_value_value: \x7bclient_id: x\x7d\x7d\n"

/-- The node of the file. -/
def reservedNode : Yaml.Node :=
  .table {} [(.scalar {} true "m2m", .table {} [(.scalar {} true "___figment_value_value",
    .table {} [(.scalar {} true "client_id", .scalar {} true "x")])])]

theorem ofText?_reserved : Yaml.Node.ofText? reserved = some (some reservedNode) := by cbv

theorem writesSections_reservedNode : WritesSections reservedNode := by
  intro leaf hleaf above key below hpath value hvalue
  have hlengths : ∀ leaf ∈ leaves, leaf.path.length ≤ 2 := by decide
  have hlength := hlengths leaf hleaf
  cases above with
  | nil => exact ⟨_, _, hvalue.symm⟩
  | cons first rest =>
    cases rest with
    | nil =>
      obtain ⟨p, plain, next, hmem, rfl⟩ := hvalue
      obtain ⟨-, rfl⟩ := Prod.mk.inj (List.mem_singleton.1 hmem)
      exact ⟨_, _, rfl⟩
    | cons _ _ => simp [hpath] at hlength

theorem load_reserved :
    load (some reserved) [] = .ok { serviceToken := { clientId := "x" } } := by
  have hfile : ofFile? reserved = some (.table [("m2m", .table [("client_id", .text "x")])]) := by
    cbv
  have hlayers (es) : (ofEnvironment []).layeredOver (.table es) = .table es := by
    rw [ofEnvironment, List.foldl_nil, layeredOver_table, entriesOver]
  rw [load_eq (by rw [Option.elim_some, hfile]), hlayers]
  rfl

end Sample

/-- **Not only files whose keys are known are loaded**, when keys are taken as they are written. -/
theorem not_only_known_keys :
    ¬∀ (content : String) (node : Yaml.Node), Yaml.Node.ofText? content = some (some node) →
      WritesSections node → (∃ settings, load (some content) [] = .ok settings) →
        ∀ path value, Stands node path value → Leads leaves path := by
  intro h
  have hstands : ∃ value, Stands Sample.reservedNode ["m2m", valueKey] value :=
    ⟨_, {}, true, _, List.mem_singleton_self _, {}, true, _, List.mem_singleton_self _, rfl⟩
  obtain ⟨value, hvalue⟩ := hstands
  have hleads := h _ _ Sample.ofText?_reserved Sample.writesSections_reservedNode
    ⟨_, Sample.load_reserved⟩ _ _ hvalue
  exact absurd hleads
    (by simp [Leads, leaves, valueKey, Leaf.text, Leaf.optionalText, Leaf.natural])

end AccountDirectory.Settings
