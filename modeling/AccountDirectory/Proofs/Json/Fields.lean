import AccountDirectory.Proofs.Json.RoundTrip
import AccountDirectory.Proofs.Json.Shapes

/-!
# Records that are written and read

A record is written as an object with the members that are there (`present`): a field without a
value is left out. Such an object is read as the record of these members
(`Record.ofDocument?_present`), in which every field stands under its own name
(`Record.lookup_written`).

**One field at a time.** A field with a default comes back when it was written
(`Record.defaulted_of_written`). An optional field comes back as it was, written or left out
(`Record.optional_of_written`), as long as its value is not written as `null`, which would be read as
no value.

Conversely, what a reader says of a document is known of the value that it gave: a reader that goes
into a container has a budget left (`Record.budget_of_ofDocument?`), and what is not absent was read
from something that is not `null` (`Record.exists_of_optional`). An optional field is read exactly if
it is absent, `null` or can be read (`Record.exists_optional_iff`).
-/

namespace AccountDirectory.Json

/-! ### Fields that may be absent -/

/-- **The members of a record**: the fields that have a value, in their order. -/
def present (fields : List (String × Option Value)) : List (String × Value) :=
  fields.filterMap fun (name, v) ↦ v.map (name, ·)

theorem present_nil : present [] = [] := rfl

theorem present_cons (name : String) (v : Option Value) (rest : List (String × Option Value)) :
    present ((name, v) :: rest) = (v.map (name, ·)).toList ++ present rest := by
  cases v <;> rfl

theorem names_present_sublist (fields : List (String × Option Value)) :
    ((present fields).map Prod.fst).Sublist (fields.map Prod.fst) := by
  induction fields with
  | nil => exact .slnil
  | cons field rest ih =>
    obtain ⟨name, - | v⟩ := field
    · exact .cons name ih
    · exact .cons_cons name ih

/-- A field is there under its name if it has a value, and is not there if it has none. -/
theorem lookup_present {fields : List (String × Option Value)} {name : String} {v : Option Value}
    (h : (fields.map Prod.fst).Nodup) (hm : (name, v) ∈ fields) :
    (present fields).lookup name = v := by
  induction fields with
  | nil => cases hm
  | cons field rest ih =>
    obtain ⟨first, w⟩ := field
    obtain ⟨hfirst, hrest⟩ := List.nodup_cons.1 h
    rw [present_cons]
    obtain heq | hlater := List.mem_cons.1 hm
    · obtain ⟨rfl, rfl⟩ := Prod.mk.inj heq
      cases v with
      | some v =>
        rw [Option.map_some, Option.toList_some, List.singleton_append, List.lookup_cons_self]
      | none =>
        -- the names are distinct, so there is no other member under this one
        rw [Option.map_none, Option.toList_none, List.nil_append, List.lookup_eq_none_iff]
        intro m hmem
        refine bne_iff_ne.2 fun hname ↦ hfirst ?_
        rw [hname]
        exact (names_present_sublist rest).subset (List.mem_map_of_mem hmem)
    · have hname : name ∈ rest.map Prod.fst := List.mem_map.2 ⟨(name, v), hlater, rfl⟩
      have hne : name ≠ first := fun heq ↦ hfirst (heq ▸ hname)
      cases w with
      | none => exact ih hrest hlater
      | some w =>
        rw [Option.map_some, Option.toList_some, List.singleton_append, List.lookup_cons,
          beq_false_of_ne hne]
        exact ih hrest hlater

/-- The value of a field keeps its doubles if the record does. -/
theorem keepsDoubles_of_mem {fields : List (String × Option Value)} (name : String) {v : Value}
    (h : (Value.object (present fields)).keepsDoubles) (hm : (name, some v) ∈ fields) :
    v.keepsDoubles :=
  Value.membersKeepDoubles_iff.1 h (name, v) (List.mem_filterMap.2 ⟨_, hm, rfl⟩)

/-! ### The object of a record -/

/-- The object that is written for a value. -/
theorem Value.toDocument_object (members : List (String × Value)) :
    (Value.object members).toDocument =
      .ofFields (members.map fun (key, v) ↦ (key, v.toDocument)) := by
  rw [toDocument, Document.ofFields, List.map_map, toMembers_eq_map]
  rfl

theorem lookup_map_toDocument (name : String) (members : List (String × Value)) :
    (members.map fun (key, v) ↦ (key, v.toDocument)).lookup name =
      (members.lookup name).map Value.toDocument := by
  induction members with
  | nil => rfl
  | cons m rest ih =>
    obtain ⟨key, v⟩ := m
    rw [List.map_cons, List.lookup_cons, List.lookup_cons, ih]
    cases name == key <;> rfl

/-- **A field is written under its own name**, and only if it has a value. -/
theorem member?_present {fields : List (String × Option Value)} {name : String} {v : Option Value}
    (h : (fields.map Prod.fst).Nodup) (hm : (name, v) ∈ fields) :
    (Value.object (present fields)).toDocument.member? name = v.map Value.toDocument := by
  rw [Value.toDocument, Value.toMembers_eq_map, Document.member?, ← lookup_present h hm,
    ← lookup_map_toDocument, ← Record.lookup_map_some, List.map_map]
  rfl

namespace Record

/-- The record of these fields, as it is read. -/
def written (fields : List (String × Option Value)) (budget : Nat) : Record :=
  ⟨(present fields).map fun (key, v) ↦ (key, v.toDocument), budget⟩

/-- **The object of a record is read as the record.** -/
theorem ofDocument?_present {names : List String} {budget : Nat}
    {fields : List (String × Option Value)} (hnames : fields.map Prod.fst = names)
    (hnodup : names.Nodup) (hb : budget ≠ 0) :
    ofDocument? names budget (Value.object (present fields)).toDocument =
      some (written fields (budget - 1)) := by
  have hsublist : ((present fields).map Prod.fst).Sublist names :=
    hnames ▸ names_present_sublist fields
  have hmembers : ((present fields).map fun (key, v) ↦ (key, v.toDocument)).map Prod.fst =
      (present fields).map Prod.fst := by
    rw [List.map_map]
    rfl
  -- every member is a field, so none is skipped
  have hkept : kept names ((present fields).map fun (key, v) ↦ (key, v.toDocument)) =
      (present fields).map fun (key, v) ↦ (key, v.toDocument) := by
    refine List.filter_eq_self.2 fun m hm ↦ List.contains_iff_mem.2 (hsublist.subset ?_)
    rw [← hmembers]
    exact List.mem_map_of_mem hm
  rw [Value.toDocument_object, ofDocument?_of_nodup names hb (hmembers ▸ hsublist.nodup hnodup),
    hkept, written]

theorem lookup_written {fields : List (String × Option Value)} {budget : Nat} {name : String}
    {v : Option Value} (h : (fields.map Prod.fst).Nodup) (hm : (name, v) ∈ fields) :
    (written fields budget).fields.lookup name = v.map Value.toDocument := by
  rw [written, lookup_map_toDocument, lookup_present h hm]

/-! ### Reading fields back -/

variable {α : Type} {r : Record} {name : String} {read : Reader α}

theorem defaulted_of_written {default x : α} {v : Value}
    (h : r.fields.lookup name = some v.toDocument) (hread : read r.budget v.toDocument = some x) :
    r.defaulted name default read = some x := by
  rw [defaulted, h]
  exact hread

/-- What is not `null` is read as a value that is there. -/
theorem nullable_eq_some_some_iff {budget : Nat} {d : Document} {x : α} :
    read.nullable budget d = some (some x) ↔ d ≠ .null ∧ read budget d = some x := by
  cases d with
  | null => simp [Reader.nullable]
  | _ => simp [Reader.nullable]

/-- Only `null` is written as `null`. -/
theorem toDocument_ne_null {v : Value} (h : v ≠ .null) : v.toDocument ≠ .null := by
  cases v with
  | null => exact absurd rfl h
  | _ => nofun

theorem optional_of_written {write : α → Value} {x : Option α}
    (h : r.fields.lookup name = (x.map write).map Value.toDocument)
    (hread : ∀ y ∈ x, write y ≠ .null ∧ read r.budget (write y).toDocument = some y) :
    r.optional name read = some x := by
  rw [optional, defaulted, h]
  cases x with
  | none => rfl
  | some y =>
    obtain ⟨hnull, hy⟩ := hread y rfl
    exact nullable_eq_some_some_iff.2 ⟨toDocument_ne_null hnull, hy⟩

/-! ### What was read -/

/-- A record is a container. -/
theorem budget_of_ofDocument? {names : List String} {budget : Nat} {d : Document}
    (h : ofDocument? names budget d = some r) : budget ≠ 0 ∧ r.budget = budget - 1 := by
  cases d with
  | object members =>
    rw [ofDocument?] at h
    split at h
    · cases h
    · next hb =>
      obtain ⟨fields, -, h⟩ := Option.bind_eq_some_iff.1 h
      dsimp only at h
      split at h
      · obtain rfl := Option.some.inj h
        exact ⟨hb, rfl⟩
      · cases h
  | list items =>
    rw [ofDocument?] at h
    split at h
    · cases h
    · next hb =>
      obtain rfl := Option.some.inj h
      exact ⟨fun hzero ↦ hb (.inl hzero), rfl⟩
  | null | bool | number | text => cases h

/-- A field that does not have its default was read. -/
theorem exists_of_defaulted {default x : α} (h : r.defaulted name default read = some x) :
    x = default ∨ ∃ d, read r.budget d = some x := by
  rw [defaulted] at h
  split at h
  · exact .inl (Option.some.inj h).symm
  · next d _ => exact .inr ⟨d, h⟩

/-- An optional field that is there was read from something that is not `null`. -/
theorem exists_of_optional {x : Option α} (h : r.optional name read = some x) :
    ∀ y ∈ x, ∃ d, d ≠ .null ∧ read r.budget d = some y := by
  rintro y rfl
  obtain hnone | ⟨d, hd⟩ := exists_of_defaulted h
  · cases hnone
  · exact ⟨d, nullable_eq_some_some_iff.1 hd⟩

theorem nullable_of_ne_null {budget : Nat} {d : Document} (h : d ≠ .null) :
    read.nullable budget d = (read budget d).map some := by
  cases d with
  | null => exact absurd rfl h
  | _ => rfl

/-- **An optional field is read** if it is absent, `null` or can be read. -/
theorem exists_optional_iff :
    (∃ x, r.optional name read = some x) ↔
      ∀ d, r.fields.lookup name = some d → d = .null ∨ ∃ y, read r.budget d = some y := by
  rw [optional, defaulted]
  cases r.fields.lookup name with
  | none =>
    constructor
    · nofun
    · exact fun _ ↦ ⟨none, rfl⟩
  | some d =>
    constructor
    · rintro ⟨x, hx⟩ d' hd'
      obtain rfl := Option.some.inj hd'
      by_cases hnull : d = .null
      · exact .inl hnull
      · obtain ⟨y, hy, -⟩ :=
          Option.map_eq_some_iff.1 ((nullable_of_ne_null hnull).symm.trans hx)
        exact .inr ⟨y, hy⟩
    · intro h
      obtain rfl | ⟨y, hy⟩ := h d rfl
      · exact ⟨none, rfl⟩
      · by_cases hnull : d = .null
        · exact ⟨none, hnull ▸ rfl⟩
        · exact ⟨some y, nullable_eq_some_some_iff.2 ⟨hnull, hy⟩⟩

/-- An optional text is the text under its name. -/
theorem eq_of_optional_text {x : Option String} (h : r.optional name .text = some x) :
    x = (r.fields.lookup name).bind Document.text? := by
  rw [optional, defaulted] at h
  cases hd : r.fields.lookup name with
  | none =>
    rw [hd] at h
    exact (Option.some.inj h).symm
  | some d =>
    rw [hd] at h
    by_cases hnull : d = .null
    · subst hnull
      exact (Option.some.inj h).symm
    · obtain ⟨s, hs, rfl⟩ := Option.map_eq_some_iff.1 ((nullable_of_ne_null hnull).symm.trans h)
      exact hs.symm.trans (Reader.text_eq_text? r.budget d)

end Record

namespace Reader

variable {α : Type} {item : Reader α}

/-- Each item of a list was read. -/
theorem exists_of_list {budget : Nat} {d : Document} {xs : List α}
    (h : item.list budget d = some xs) : ∀ x ∈ xs, ∃ d, item (budget - 1) d = some x := by
  cases d with
  | list items =>
    rw [list] at h
    split at h
    · cases h
    · exact (exists_of_mapM h).2
  | _ => cases h

/-- **A list is read back** if its items are. -/
theorem list_of_written {budget : Nat} {write : α → Value} {xs : List α} (hb : budget ≠ 0)
    (h : ∀ x ∈ xs, item (budget - 1) (write x).toDocument = some x) :
    item.list budget (Value.list (xs.map write)).toDocument = some xs := by
  rw [Value.toDocument, list, if_neg hb, Value.toItems_eq_map, mapM_eq_some_iff,
    List.forall₂_map_left_iff, List.forall₂_map_left_iff, List.forall₂_same]
  exact h

end Reader

end AccountDirectory.Json
