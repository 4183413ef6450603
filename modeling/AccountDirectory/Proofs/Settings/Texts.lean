import AccountDirectory.Proofs.Settings.Layers
import AccountDirectory.Proofs.Settings.Notation

/-!
# Texts from the environment

The value of a variable is read as a notation before it comes to a leaf. So a leaf that is a text
does not get every value as it is (`not_every_text_given`): it gets exactly those that are not the
notation of another value (`GivesTexts.kept_iff`), which are plain words and what is no notation at
all (`GivesTexts.plain_iff`). Of a quoted text it gets what is in the quotes, and a number, a
constant, a list or a table is refused at the path of the leaf.

Nothing is lost by that: every text can be given in quotes (`GivesTexts.quoted`).
-/

namespace AccountDirectory.Settings

open Setting Setting.Variable

section

variable {file : Option String} {root : Setting} {base settings : Settings} {leaf : Leaf Settings}
  {name value text : String} {s : Setting} {type : LeafType} {v : LeafValue}

/-! ### Texts and types -/

theorem admits_text (htype : type ≠ .natural) (text : String) :
    type.Admits (.text text) (.text text) := by
  cases type with
  | text => exact .text text
  | optionalText => exact .given text
  | natural => exact absurd rfl htype

/-- What is denoted and is no text is of no type of texts. -/
theorem not_admits_of_denotes (htype : type ≠ .natural) {cs : List Char} (h : Denotes cs s)
    (hs : ∀ text, s ≠ .text text) (v : LeafValue) : ¬type.Admits s v := by
  intro hv
  cases hv with
  | text t => exact hs t rfl
  | given t => exact hs t rfl
  | nothing => exact absurd rfl h.ne_empty
  | natural hn => exact htype rfl

theorem fault_eq_invalidType (htype : type ≠ .natural) (s : Setting) :
    type.fault s = .invalidType := by
  cases type with
  | natural => exact absurd rfl htype
  | _ => rfl

/-! ### One variable -/

/-- **The variable gives texts to the leaf**, on top of a file with these settings. -/
structure GivesTexts (file : Option String) (base : Settings) (leaf : Leaf Settings)
    (name : String) : Prop where
  /-- A value is kept as it is if and only if it is not the notation of another one. -/
  kept_iff (value : String) : (∃ settings, load file [(name, value)] = .ok settings ∧
    leaf.get settings = .text value) ↔ ∀ s, Denotes value.toList s → s = .text value
  /-- Such a value is no notation at all, or it is a plain word. -/
  plain_iff (value : String) : (∃ settings, load file [(name, value)] = .ok settings ∧
    leaf.get settings = .text value) ↔
      (∀ s, ¬Denotes value.toList s) ∨ IsPlain value.toList
  /-- The notation of a text gives that text. -/
  meant (value text : String) : Denotes value.toList (.text text) →
    ∃ settings, load file [(name, value)] = .ok settings ∧ leaf.get settings = .text text
  /-- The notation of anything else is refused at the path of the leaf. -/
  refused (value : String) (s : Setting) : Denotes value.toList s → (∀ text, s ≠ .text text) →
    load file [(name, value)] = .error ⟨.invalidType, leaf.path⟩
  /-- Every text can be given in quotes. -/
  quoted (text : String) : ∃ settings, load file [(name, inQuotes text)] = .ok settings ∧
    leaf.get settings = .text text
  /-- All other leaves are as without the variable. -/
  others (value : String) (settings : Settings) : load file [(name, value)] = .ok settings →
    ∀ other ∈ leaves, other ≠ leaf → other.get settings = other.get base

section

variable (hfile : file.elim (some (.table [])) ofFile? = some root) (hroot : Sectioned leaves root)
  (hbase : load file [] = .ok base) (hleaf : leaf ∈ leaves) (htype : leaf.type ≠ .natural)
  (hname : leaf.NamedBy name)

include hfile hroot hbase hleaf htype hname

/-- A value that stands for a text gives that text, and nothing else changes. -/
theorem exists_load_of_text (hvalue : ofText value = .text text) :
    ∃ settings, load file [(name, value)] = .ok settings ∧ leaf.get settings = .text text ∧
      ∀ other ∈ leaves, other ≠ leaf → other.get settings = other.get base := by
  have hnone : IsOverride [] := nofun
  have hadmits : leaf.type.Admits (ofText value) (.text text) := hvalue ▸ admits_text htype text
  obtain ⟨settings, hload, hget, hothers⟩ :=
    exists_load_concat hfile hroot hnone hbase hleaf hname ⟨_, hadmits⟩
  exact ⟨settings, hload, hget.unique hadmits, hothers⟩

/-- A value that stands for no text is refused at the leaf. -/
theorem load_of_not_text (hdenotes : Denotes value.toList s) (hs : ∀ text, s ≠ .text text) :
    load file [(name, value)] = .error ⟨.invalidType, leaf.path⟩ := by
  have hvalue : ofText value = s := ofText_of_denotes hdenotes
  have hnone : IsOverride [] := nofun
  obtain ⟨hknown, hsound⟩ := (exists_load_iff hfile hroot hnone).1 ⟨base, hbase⟩
  have htyped : WellTyped leaves root := fun leaf hleaf ↦ hsound leaf hleaf rfl
  have hupper := isOverlay_single hleaf hname (ordered_ofText value)
  have hat : ∀ leaf' ∈ leaves, ((ofEnvironment [(name, value)]).layeredOver root).at? leaf'.path =
      (if leaf'.NamedBy name then some (ofText value) else none).or (root.at? leaf'.path) :=
    fun leaf' hleaf' ↦ hupper.at?_layeredOver_of_wellTyped hroot htyped hleaf'
  have hown : ((ofEnvironment [(name, value)]).layeredOver root).at? leaf.path = some s := by
    rw [hat leaf hleaf, if_pos hname, hvalue, Option.some_or]
  have hordered := hupper.ordered.layeredOver (ordered_of_file hfile)
  have hsectioned := hupper.sectioned.layeredOver hroot
  rw [load_eq hfile]
  cases hload : ofSetting ((ofEnvironment [(name, value)]).layeredOver root) with
  | ok settings =>
    obtain ⟨-, htyped⟩ := (reads_ofSetting.exists_ok_iff hordered hsectioned).1 ⟨settings, hload⟩
    obtain ⟨v, hv⟩ := htyped leaf hleaf s hown
    exact absurd hv (not_admits_of_denotes htype hdenotes hs v)
  | error e =>
    obtain ⟨leaf', hleaf', t, ht, hrefused, rfl⟩ | ⟨path, key, hsome, hleads, -⟩ :=
      reads_ofSetting.blames hordered hsectioned hload
    · by_cases hname' : leaf'.NamedBy name
      · obtain rfl := eq_of_namedBy hleaf' hleaf hname' hname
        rw [fault_eq_invalidType htype]
      · rw [hat leaf' hleaf', if_neg hname', Option.none_or] at ht
        obtain ⟨v, hv⟩ := htyped leaf' hleaf' t ht
        exact absurd hv (hrefused v)
    · exact absurd (((knowsKeys_layeredOver hupper.sectioned hroot hupper.knowsKeys).2 hknown) _
        hsome) hleads

/-- A value that is loaded stands for a text. -/
theorem exists_text_of_load (hload : load file [(name, value)] = .ok settings) :
    ∃ text, ofText value = .text text ∧ leaf.get settings = .text text ∧
      ∀ other ∈ leaves, other ≠ leaf → other.get settings = other.get base := by
  obtain ⟨text, hvalue⟩ : ∃ text, ofText value = .text text := by
    by_contra hnot
    rw [not_exists] at hnot
    obtain hdenotes | ⟨-, hvalue⟩ := ofText_eq_iff.1 (rfl : ofText value = ofText value)
    · rw [load_of_not_text hfile hroot hbase hleaf htype hname hdenotes hnot] at hload
      cases hload
    · exact hnot value hvalue
  obtain ⟨settings', hload', hsettings⟩ :=
    exists_load_of_text hfile hroot hbase hleaf htype hname hvalue
  obtain rfl := Except.ok.inj (hload.symm.trans hload')
  exact ⟨text, hvalue, hsettings⟩

/-- **Texts from the environment**: a leaf that is a text gets every text that is not the notation
of anything else, and every text at all in quotes. -/
theorem load_givesTexts : GivesTexts file base leaf name := by
  have hgiven : ∀ {value text}, ofText value = .text text →
      ∃ settings, load file [(name, value)] = .ok settings ∧ leaf.get settings = .text text := by
    intro value text hvalue
    obtain ⟨settings, hload, hget, -⟩ :=
      exists_load_of_text hfile hroot hbase hleaf htype hname hvalue
    exact ⟨settings, hload, hget⟩
  have hmeant : ∀ value text, Denotes value.toList (.text text) →
      ∃ settings, load file [(name, value)] = .ok settings ∧ leaf.get settings = .text text :=
    fun value text h ↦ hgiven (ofText_of_denotes h)
  have hkept : ∀ value, (∃ settings, load file [(name, value)] = .ok settings ∧
      leaf.get settings = .text value) ↔ ofText value = .text value := by
    refine fun value ↦ ⟨?_, hgiven⟩
    rintro ⟨settings, hload, hget⟩
    obtain ⟨text, hvalue, hget', -⟩ :=
      exists_text_of_load hfile hroot hbase hleaf htype hname hload
    obtain rfl := LeafValue.text.inj (hget.symm.trans hget')
    exact hvalue
  refine ⟨fun value ↦ (hkept value).trans ⟨fun hvalue s hs ↦ ?_, fun h ↦ ?_⟩,
    fun value ↦ (hkept value).trans ofText_eq_self_iff, hmeant, fun value s ↦ ?_,
    fun text ↦ ?_, ?_⟩
  · exact (ofText_of_denotes hs).symm.trans hvalue
  · obtain hdenotes | ⟨-, hvalue⟩ := ofText_eq_iff.1 (rfl : ofText value = ofText value)
    · exact h _ hdenotes
    · exact hvalue
  · exact load_of_not_text hfile hroot hbase hleaf htype hname
  · exact hmeant _ _ (denotes_inQuotes text)
  · intro value settings hload
    obtain ⟨-, -, -, hothers⟩ := exists_text_of_load hfile hroot hbase hleaf htype hname hload
    exact hothers

end

end

theorem load_none : load none [] = .ok {} := by
  have hlayers : (ofEnvironment []).layeredOver (.table []) = .table [] := by
    rw [ofEnvironment, List.foldl_nil, layeredOver_table, entriesOver]
  rw [load_eq rfl, hlayers]
  rfl

theorem namedBy_domain :
    (Leaf.text ["domain"] (·.domain)).NamedBy "USER_DIRECTORY_DOMAIN" := by
  decide +kernel

theorem load_domain_givesTexts : none.elim (some (.table [])) ofFile? = some (.table []) ∧
    Sectioned leaves (.table []) ∧ load none [] = .ok {} ∧
    GivesTexts none {} (.text ["domain"] (·.domain)) "USER_DIRECTORY_DOMAIN" := by
  exact ⟨rfl, isOverlay_empty.sectioned, load_none,
    load_givesTexts rfl isOverlay_empty.sectioned load_none List.mem_cons_self nofun
      namedBy_domain⟩

theorem load_number :
    load none [("USER_DIRECTORY_DOMAIN", "123")] = .error ⟨.invalidType, ["domain"]⟩ := by
  cbv

/-- **Not every text is given as it is**: one that is a number is none. -/
theorem not_every_text_given :
    ¬∀ leaf ∈ leaves, leaf.type ≠ .natural → ∀ name, leaf.NamedBy name →
      ∀ value : String, '\x00' ∉ value.toList → ∃ settings,
        load none [(name, value)] = .ok settings ∧ leaf.get settings = .text value := by
  intro h
  obtain ⟨settings, hsettings, -⟩ := h _ List.mem_cons_self nofun _ namedBy_domain "123"
    (by decide)
  rw [load_number] at hsettings
  cases hsettings

end AccountDirectory.Settings
