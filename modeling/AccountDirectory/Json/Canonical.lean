import AccountDirectory.Json.Value

/-!
# Canonical values

A value is canonical when the keys of each object in it stand in strictly rising order, so that an
object holds one member per key and equality of values is equality of objects.

**Reading gives canonical values** (`isCanonical_of_ofDocument?`): putting members one by one into
an object keeps the order of its keys (`rising_insertMember`), and nothing else builds an object.
-/

namespace AccountDirectory.Json

/-- The keys stand in strictly rising order. -/
def rising : List String → Bool
  | [] => true
  | [_] => true
  | a :: b :: rest => decide (a < b) && rising (b :: rest)

namespace Value

mutual

/-- Every object in the value has its keys in strictly rising order. -/
def isCanonical : Value → Bool
  | .list items => areCanonical items
  | .object members => rising (members.map Prod.fst) && membersAreCanonical members
  | _ => true

/-- Every item is canonical. -/
def areCanonical : List Value → Bool
  | [] => true
  | v :: rest => isCanonical v && areCanonical rest

/-- Every member's value is canonical. -/
def membersAreCanonical : List (String × Value) → Bool
  | [] => true
  | (_, v) :: rest => isCanonical v && membersAreCanonical rest

end

end Value

/-! ### Building objects -/

/-- The keys of an object with one more member: the first one is the new key or the old first. -/
theorem head_insertMember (key : String) (v : Value) (members : List (String × Value)) :
    ∃ k w rest, insertMember key v members = (k, w) :: rest ∧
      (k = key ∨ ∃ w' rest', members = (k, w') :: rest') := by
  cases members with
  | nil => exact ⟨key, v, [], rfl, .inl rfl⟩
  | cons m rest =>
    obtain ⟨k, w⟩ := m
    by_cases hlt : key < k
    · exact ⟨key, v, (k, w) :: rest, by simp [insertMember, hlt], .inl rfl⟩
    · by_cases heq : key = k
      · exact ⟨key, v, rest, by rw [insertMember, if_neg hlt, if_pos heq], .inl rfl⟩
      · exact ⟨k, w, insertMember key v rest, by rw [insertMember, if_neg hlt, if_neg heq],
          .inr ⟨w, rest, rfl⟩⟩

theorem rising_insertMember (key : String) (v : Value) (members : List (String × Value))
    (h : rising (members.map Prod.fst) = true) :
    rising ((insertMember key v members).map Prod.fst) = true := by
  induction members with
  | nil => rfl
  | cons m rest ih =>
    obtain ⟨k, w⟩ := m
    have hrest : rising (rest.map Prod.fst) = true := by
      cases rest with
      | nil => rfl
      | cons m' rest' => simp only [List.map_cons, rising, Bool.and_eq_true] at h; exact h.2
    by_cases hlt : key < k
    · rw [insertMember, if_pos hlt]
      simpa [rising, hlt] using h
    · by_cases heq : key = k
      · subst heq
        rw [insertMember, if_neg hlt, if_pos rfl]
        simpa using h
      · rw [insertMember, if_neg hlt, if_neg heq]
        have hgt : k < key := by grind
        obtain ⟨k', w', rest', heq', hk'⟩ := head_insertMember key v rest
        have hins := ih hrest
        rw [heq'] at hins ⊢
        simp only [List.map_cons, rising, Bool.and_eq_true, decide_eq_true_eq] at hins ⊢
        refine ⟨?_, hins⟩
        rcases hk' with rfl | ⟨w'', rest'', rfl⟩
        · exact hgt
        · simp only [List.map_cons, rising, Bool.and_eq_true, decide_eq_true_eq] at h
          exact h.1

theorem membersAreCanonical_insertMember {key : String} {v : Value}
    {members : List (String × Value)} (hv : v.isCanonical = true)
    (h : Value.membersAreCanonical members = true) :
    Value.membersAreCanonical (insertMember key v members) = true := by
  induction members with
  | nil => simp [insertMember, Value.membersAreCanonical, hv]
  | cons m rest ih =>
    obtain ⟨k, w⟩ := m
    simp only [Value.membersAreCanonical, Bool.and_eq_true] at h
    rw [insertMember]
    split
    · simp [Value.membersAreCanonical, hv, h]
    · split
      · simp [Value.membersAreCanonical, hv, h]
      · simp [Value.membersAreCanonical, h, ih h.2]

theorem isCanonical_objectOf (members : List (String × Value))
    (h : Value.membersAreCanonical members = true) :
    (Value.object (objectOf members)).isCanonical = true := by
  suffices ∀ object : List (String × Value), (Value.object object).isCanonical = true →
      (Value.object (members.foldl (fun object (m : String × Value) ↦
        insertMember m.1 m.2 object) object)).isCanonical = true from this [] rfl
  induction members with
  | nil => exact fun object hobject ↦ hobject
  | cons m rest ih =>
    intro object hobject
    simp only [Value.membersAreCanonical, Bool.and_eq_true] at h
    simp only [Value.isCanonical, Bool.and_eq_true] at hobject
    refine ih h.2 _ ?_
    simp only [Value.isCanonical, Bool.and_eq_true]
    exact ⟨rising_insertMember _ _ _ hobject.1, membersAreCanonical_insertMember h.1 hobject.2⟩

/-! ### Reading -/

namespace Value

mutual

theorem isCanonical_of_ofDocument? {budget : Nat} :
    ∀ {d : Document} {v : Value}, ofDocument? budget d = some v → v.isCanonical = true
  | .null, v, h => by simp only [ofDocument?, Option.some.injEq] at h; subst h; rfl
  | .bool b, v, h => by simp only [ofDocument?, Option.some.injEq] at h; subst h; rfl
  | .number lit, v, h => by
    simp only [ofDocument?, Option.map_eq_some_iff] at h; obtain ⟨_, _, rfl⟩ := h; rfl
  | .text content, v, h => by
    simp only [ofDocument?, Option.map_eq_some_iff] at h; obtain ⟨_, _, rfl⟩ := h; rfl
  | .list items, v, h => by
    rw [ofDocument?] at h
    split at h
    · simp at h
    · obtain ⟨vs, hvs, rfl⟩ := Option.map_eq_some_iff.1 h
      rw [isCanonical]
      exact areCanonical_of_ofItems? hvs
  | .object members, v, h => by
    rw [ofDocument?] at h
    split at h
    · simp at h
    · obtain ⟨ms, hms, rfl⟩ := Option.map_eq_some_iff.1 h
      exact isCanonical_objectOf ms (membersAreCanonical_of_ofMembers? hms)

theorem areCanonical_of_ofItems? {budget : Nat} :
    ∀ {items : List Document} {vs : List Value}, ofItems? budget items = some vs →
      areCanonical vs = true
  | [], vs, h => by simp only [ofItems?, Option.some.injEq] at h; subst h; rfl
  | d :: rest, vs, h => by
    simp only [ofItems?, bind, Option.bind_eq_some_iff, Option.some.injEq] at h
    obtain ⟨v, hv, later, hlater, rfl⟩ := h
    simp [areCanonical, isCanonical_of_ofDocument? hv, areCanonical_of_ofItems? hlater]

theorem membersAreCanonical_of_ofMembers? {budget : Nat} :
    ∀ {members : List (Option String × Document)} {ms : List (String × Value)},
      ofMembers? budget members = some ms → membersAreCanonical ms = true
  | [], ms, h => by simp only [ofMembers?, Option.some.injEq] at h; subst h; rfl
  | (key, d) :: rest, ms, h => by
    simp only [ofMembers?, bind, Option.bind_eq_some_iff, Option.some.injEq] at h
    obtain ⟨k, _, v, hv, later, hlater, rfl⟩ := h
    simp [membersAreCanonical, isCanonical_of_ofDocument? hv,
      membersAreCanonical_of_ofMembers? hlater]

end

end Value

end AccountDirectory.Json
