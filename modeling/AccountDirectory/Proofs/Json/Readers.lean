import AccountDirectory.Proofs.Json.Record

/-!
# Readers that read values

A reader with a shape in mind and the reader of free-form values are written independently of each
other. `Reader.ReadsValues` says that the first never reads what the second refuses: an unpaired
surrogate, a number beyond the doubles, or more nested containers than the budget.

**Closure.** The readers of texts and of names have the property, and what is put together from such
readers has it again (`ReadsValues.nullable`, `ReadsValues.list`, `ReadsValues.bind`). A list needs
the budget of its items to be one less on both sides, which is where the two budgets are compared.
-/

namespace AccountDirectory.Json

namespace Value

variable {budget : Nat}

/-- A list has a value if its items have. -/
theorem isSome_ofItems? {items : List Document}
    (h : ∀ d ∈ items, (ofDocument? budget d).isSome) : (ofItems? budget items).isSome := by
  induction items with
  | nil => rfl
  | cons d rest ih =>
    obtain ⟨v, hv⟩ := Option.isSome_iff_exists.1 (h d List.mem_cons_self)
    obtain ⟨later, hlater⟩ :=
      Option.isSome_iff_exists.1 (ih fun x hx ↦ h x (List.mem_cons_of_mem d hx))
    rw [ofItems?, hv, hlater]
    rfl

/-- An object has a value if its members have a name and a value. -/
theorem isSome_ofMembers? {members : List (String × Document)}
    (h : ∀ m ∈ members, (ofDocument? budget m.2).isSome) :
    (ofMembers? budget (members.map fun (name, d) ↦ (some name, d))).isSome := by
  induction members with
  | nil => rfl
  | cons m rest ih =>
    obtain ⟨v, hv⟩ := Option.isSome_iff_exists.1 (h m List.mem_cons_self)
    obtain ⟨later, hlater⟩ :=
      Option.isSome_iff_exists.1 (ih fun x hx ↦ h x (List.mem_cons_of_mem m hx))
    rw [List.map_cons, ofMembers?]
    dsimp only
    rw [hv, hlater]
    rfl

end Value

namespace Reader

variable {α β : Type}

/-- **The reader reads values only**: what it reads is a free-form value as well. -/
def ReadsValues (read : Reader α) : Prop :=
  ∀ budget d, (read budget d).isSome → (Value.ofDocument? budget d).isSome

theorem readsValues_text : ReadsValues text := by
  intro budget d h
  obtain ⟨s, hs⟩ := Option.isSome_iff_exists.1 h
  obtain rfl := text_eq_some_iff.1 hs
  rfl

/-- A name is a text, or an object with a `null` in it. -/
theorem readsValues_name : ReadsValues (name Document.isNull) := by
  intro budget d h
  rcases d with - | b | lit | content | items | members
  · cases h
  · cases h
  · cases h
  · exact (Option.isSome_map).trans h
  · cases h
  · rcases members with - | ⟨⟨content, d⟩, - | ⟨m, rest⟩⟩
    · cases h
    · rw [name] at h
      split at h
      · next hfits =>
        obtain ⟨hb, hnull⟩ := hfits
        obtain ⟨s, rfl⟩ := Option.isSome_iff_exists.1 h
        obtain rfl : d = .null := by
          cases d with
          | null => rfl
          | _ => cases hnull
        rw [Value.ofDocument?, if_neg hb]
        rfl
      · cases h
    · cases h

variable {read : Reader α}

theorem ReadsValues.nullable (h : read.ReadsValues) : read.nullable.ReadsValues := by
  intro budget d hd
  cases d with
  | null => rfl
  | _ =>
    rw [Reader.nullable, Option.isSome_map] at hd
    · exact h budget _ hd
    · exact nofun

/-- What is made of the result does not matter. -/
theorem ReadsValues.bind (h : read.ReadsValues) (f : α → Option β) :
    ReadsValues fun budget d ↦ (read budget d).bind f := by
  intro budget d hd
  exact h budget d (Option.isSome_of_isSome_bind hd)

theorem ReadsValues.list (h : read.ReadsValues) : read.list.ReadsValues := by
  intro budget d hd
  cases d with
  | list items =>
    rw [Reader.list] at hd
    split at hd
    · cases hd
    · next hb =>
      obtain ⟨all, hall⟩ := Option.isSome_iff_exists.1 hd
      rw [Value.ofDocument?, if_neg hb, Option.isSome_map]
      exact Value.isSome_ofItems? fun x hx ↦ h _ x ((exists_of_mapM hall).1 x hx)
  | _ => cases hd

end Reader

end AccountDirectory.Json
