import AccountDirectory.Proofs.Text.Blank
import AccountDirectory.Tenant

/-!
# Base addresses

A base address is one of the two web schemes with something behind it that does not end in a slash
(`IsBase`). The one for a domain is of this form (`isBase_baseAddress`), unless the domain is
nothing but slashes: then all of it is trimmed away, and what is left is a scheme with its own
slashes (`baseAddress_of_slashes`).
-/

namespace AccountDirectory.Tenant

variable {s domain : String}

/-! ### Slashes at the end -/

/-- Trimming slashes drops them from the right. -/
theorem toList_trimSlashes (s : String) :
    (trimSlashes s).toList = s.toList.rdropWhile (· == '/') :=
  String.toList_ofList

theorem getLast?_trimSlashes (s : String) : (trimSlashes s).toList.getLast? ≠ some '/' := by
  intro h
  have hne : (trimSlashes s).toList ≠ [] := fun hnil ↦ by simp [hnil] at h
  have hlast := List.rdropWhile_last_not (· == '/') s.toList (toList_trimSlashes s ▸ hne)
  simp only [← toList_trimSlashes] at hlast
  rw [List.getLast?_eq_some_getLast hne, Option.some.injEq] at h
  simp [h] at hlast

/-- A text that does not end in a slash is not trimmed, -/
theorem trimSlashes_eq_self (h : s.toList.getLast? ≠ some '/') : trimSlashes s = s := by
  refine String.toList_inj.1 ?_
  rw [toList_trimSlashes, List.rdropWhile_eq_self_iff]
  intro hne hslash
  exact h (by rw [List.getLast?_eq_some_getLast hne, beq_iff_eq.1 hslash])

/-- and neither is it if one slash is put behind it. -/
theorem trimSlashes_append_slash (h : s.toList.getLast? ≠ some '/') :
    trimSlashes (s ++ "/") = s := by
  have hconcat : (s ++ "/").toList = s.toList.concat '/' := by simp
  refine String.toList_inj.1 ?_
  rw [toList_trimSlashes, hconcat, List.concat_eq_append, List.rdropWhile_concat_pos _ _ _ rfl,
    ← toList_trimSlashes, trimSlashes_eq_self h]

/-! ### Base addresses -/

/-- The text is made of slashes only. -/
def IsSlashes (s : String) : Prop := ∀ c ∈ s.toList, c = '/'

/-- **A base address.** -/
structure IsBase (base : String) : Prop where
  /-- It begins with a scheme, and something is behind that. -/
  schemed : ∃ scheme ∈ ["http://", "https://"], ∃ rest, rest ≠ "" ∧ base = scheme ++ rest
  /-- It does not end in a slash. -/
  unslashed : base.toList.getLast? ≠ some '/'

theorem trimSlashes_eq_empty_iff : trimSlashes s = "" ↔ IsSlashes s := by
  rw [← String.toList_eq_nil_iff, toList_trimSlashes, List.rdropWhile_eq_nil_iff]
  simp [IsSlashes]

theorem isBase_append {scheme rest : String} (hscheme : scheme ∈ ["http://", "https://"])
    (hne : rest ≠ "") (hlast : rest.toList.getLast? ≠ some '/') : IsBase (scheme ++ rest) := by
  refine ⟨⟨scheme, hscheme, rest, hne, rfl⟩, ?_⟩
  rwa [String.toList_append,
    List.getLast?_append_of_ne_nil _ fun h ↦ hne (String.toList_eq_nil_iff.1 h)]

/-- **The address for a domain is a base address**, if the domain is more than slashes. -/
theorem isBase_baseAddress (h : ¬IsSlashes (Text.trim domain)) : IsBase (baseAddress domain) := by
  have hne : trimSlashes (Text.trim domain) ≠ "" :=
    fun hempty ↦ h (trimSlashes_eq_empty_iff.1 hempty)
  have hlast := getLast?_trimSlashes (Text.trim domain)
  rw [baseAddress]
  generalize trimSlashes (Text.trim domain) = name at hne hlast
  split
  · -- a name that begins with a scheme goes on behind it, for it does not end in a slash
    next hscheme =>
    have hbegins : ∃ scheme ∈ ["http://", "https://"], scheme.toList <+: name.toList := by
      simpa [or_comm] using hscheme
    obtain ⟨scheme, hscheme, rest, hrest⟩ := hbegins
    have hname : name = scheme ++ String.ofList rest := String.toList_inj.1 (by simp [hrest])
    have hrestne : rest ≠ [] := by
      rintro rfl
      have hslash : ∀ s ∈ ["http://", "https://"], s.toList.getLast? = some '/' := by decide
      rw [← hrest, List.append_nil] at hlast
      exact hlast (hslash scheme hscheme)
    rw [hname]
    refine isBase_append hscheme (fun hempty ↦ hrestne (String.ofList_eq_empty_iff.1 hempty)) ?_
    rwa [← hrest, List.getLast?_append_of_ne_nil _ hrestne, ← String.toList_ofList (l := rest)]
      at hlast
  · exact isBase_append (by decide) hne hlast

/-- Of a domain of slashes nothing is left but the scheme. -/
theorem baseAddress_of_slashes (h : IsSlashes (Text.trim domain)) :
    baseAddress domain = "https://" := by
  rw [baseAddress, trimSlashes_eq_empty_iff.2 h]
  decide

end AccountDirectory.Tenant
