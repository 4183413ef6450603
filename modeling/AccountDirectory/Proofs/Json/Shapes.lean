import AccountDirectory.Proofs.Json.Record

/-!
# The two shapes of a record

A record is read from an object or from a list of its fields, and from nothing else
(`Record.isSpelled_of_ofDocument?`).

**Objects.** The members under the declared names are the fields, and the others are skipped whatever
they hold (`Record.ofDocument?_ofFields_eq`, `Record.ofDocument?_skip`).

**Lists.** The items are taken for the fields in the declared order, so a list is read as the object
with these items under the declared names (`Record.ofDocument?_list`). Nothing in the reader of a
record tells the two shapes apart afterwards.
-/

namespace AccountDirectory.Json

open Document (ofFields)

/-- The document is an object. -/
def Document.IsObject (d : Document) : Prop := ∃ members, d = .object members

namespace Record

variable {names : List String} {budget : Nat} {fields : List (String × Document)}
  {items : List Document} {name : String}

/-- **The document has the shape of a record** with these fields: it is an object, or a list of no
more items than there are fields. -/
def IsSpelled (names : List String) (d : Document) : Prop :=
  d.IsObject ∨ ∃ items, d = .list items ∧ items.length ≤ names.length

/-- Nothing else is read as a record. -/
theorem isSpelled_of_ofDocument? {d : Document} {r : Record}
    (h : ofDocument? names budget d = some r) : IsSpelled names d := by
  cases d with
  | object members => exact .inl ⟨members, rfl⟩
  | list items =>
    refine .inr ⟨items, rfl, Nat.le_of_not_lt fun hlt ↦ ?_⟩
    rw [ofDocument?, if_pos (.inr hlt)] at h
    cases h
  | null | bool | number | text => cases h

/-! ### Objects -/

theorem distinct_iff_nodup {names : List String} : distinct names ↔ names.Nodup := by
  induction names with
  | nil => simp [distinct]
  | cons name rest ih => simp [distinct, ih, List.nodup_cons]

/-- The members under these names. -/
def kept (names : List String) (fields : List (String × Document)) : List (String × Document) :=
  fields.filter fun (name, _) ↦ names.contains name

/-- **The fields of an object** are its members under the declared names. -/
theorem ofDocument?_ofFields_eq (names : List String) (hb : budget ≠ 0)
    (fields : List (String × Document)) :
    ofDocument? names budget (ofFields fields) =
      if distinct ((kept names fields).map Prod.fst) then some ⟨kept names fields, budget - 1⟩
      else none := by
  have hnamed : named? (fields.map fun (n, d) ↦ ((some n : Option String), d)) = some fields :=
    named?_eq_some_iff.2 rfl
  rw [ofFields, ofDocument?, if_neg hb, hnamed]
  rfl

/-- An object with distinct names is read as a record. -/
theorem ofDocument?_of_nodup (names : List String) (hb : budget ≠ 0)
    (h : (fields.map Prod.fst).Nodup) :
    ofDocument? names budget (ofFields fields) = some ⟨kept names fields, budget - 1⟩ := by
  have hsublist : ((kept names fields).map Prod.fst).Sublist (fields.map Prod.fst) :=
    (List.filter_sublist).map _
  rw [ofDocument?_ofFields_eq names hb, if_pos (distinct_iff_nodup.2 (hsublist.nodup h))]

/-- **A member under another name is skipped**, whatever it holds. -/
theorem ofDocument?_skip (hname : name ∉ names) (before after : List (String × Document))
    (d : Document) :
    ofDocument? names budget (ofFields (before ++ (name, d) :: after)) =
      ofDocument? names budget (ofFields (before ++ after)) := by
  by_cases hb : budget = 0
  · subst hb
    rfl
  have hkept : kept names (before ++ (name, d) :: after) = kept names (before ++ after) := by
    rw [kept, kept, List.filter_append, List.filter_append, List.filter_cons_of_neg]
    simpa using hname
  rw [ofDocument?_ofFields_eq names hb, ofDocument?_ofFields_eq names hb, hkept]

/-- **A declared member may be exchanged**: with another value under the same name, an object is
still read, and no other field changes. -/
theorem ofDocument?_replace (hname : name ∈ names) {before after : List (String × Document)}
    {d : Document} {r : Record}
    (h : ofDocument? names budget (ofFields (before ++ (name, d) :: after)) = some r)
    (d' : Document) :
    r.fields.lookup name = some d ∧
      ∃ r', ofDocument? names budget (ofFields (before ++ (name, d') :: after)) = some r' ∧
        r'.budget = r.budget ∧ r'.fields.lookup name = some d' ∧
          ∀ n, n ≠ name → r'.fields.lookup n = r.fields.lookup n := by
  have hb : budget ≠ 0 := by
    rintro rfl
    cases h
  have hkept : ∀ d, kept names (before ++ (name, d) :: after) =
      kept names before ++ (name, d) :: kept names after := by
    intro d
    rw [kept, List.filter_append, List.filter_cons_of_pos (by simpa using hname)]
    rfl
  simp only [ofDocument?_ofFields_eq names hb, hkept, List.map_append, List.map_cons] at h ⊢
  split at h
  · next hdistinct =>
    obtain rfl := Option.some.inj h
    have hnone : (kept names before).lookup name = none := by
      refine List.lookup_eq_none_iff.2 fun f hf ↦ ?_
      have hdisjoint := (List.nodup_append.1 (distinct_iff_nodup.1 hdistinct)).2.2
      exact bne_iff_ne.2 (hdisjoint f.1 (List.mem_map_of_mem hf) name List.mem_cons_self).symm
    have hself : ∀ d, (kept names before ++ (name, d) :: kept names after).lookup name = some d := by
      intro d
      rw [List.lookup_append, hnone, Option.none_or, List.lookup_cons_self]
    refine ⟨hself d, _, if_pos hdistinct, rfl, hself d', fun n hn ↦ ?_⟩
    rw [List.lookup_append, List.lookup_append, List.lookup_cons, List.lookup_cons,
      beq_false_of_ne hn]
  · cases h

/-! ### Lists -/

theorem names_zip_sublist (names : List String) (items : List Document) :
    ((names.zip items).map Prod.fst).Sublist names := by
  induction names generalizing items with
  | nil => exact .slnil
  | cons name names ih =>
    cases items with
    | nil => exact List.nil_sublist _
    | cons d items => exact .cons_cons name (ih items)

/-- **The fields of a list** are its items, under the declared names. -/
theorem ofDocument?_items (hb : budget ≠ 0) (h : items.length ≤ names.length) :
    ofDocument? names budget (.list items) = some ⟨names.zip items, budget - 1⟩ := by
  rw [ofDocument?, if_neg]
  rintro (hzero | hlt)
  · exact hb hzero
  · exact Nat.not_lt.2 h hlt

/-- **A list is read as an object** with its items under the declared names. -/
theorem ofDocument?_list (hnames : names.Nodup) (h : items.length ≤ names.length) :
    ofDocument? names budget (.list items) = ofDocument? names budget (ofFields (names.zip items)) := by
  by_cases hb : budget = 0
  · subst hb
    rfl
  have hkept : kept names (names.zip items) = names.zip items := by
    refine List.filter_eq_self.2 fun m hm ↦ ?_
    exact List.contains_iff_mem.2 (List.of_mem_zip hm).1
  have hnodup : ((names.zip items).map Prod.fst).Nodup :=
    (names_zip_sublist names items).nodup hnames
  rw [ofDocument?_of_nodup names hb hnodup, hkept, ofDocument?_items hb h]

end Record

end AccountDirectory.Json
