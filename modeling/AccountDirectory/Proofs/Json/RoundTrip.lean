import AccountDirectory.Json.Canonical
import AccountDirectory.Proofs.Json.Nesting
import AccountDirectory.Proofs.Json.Numerals
import AccountDirectory.Proofs.Json.Tokens

/-!
# Values that are written and read

A value survives being written, in both layouts: the text spells the document of the value
(`ofText?_compact`, `ofText?_pretty`), and that means the value again (`value?_toDocument`).

Strings, integers and the structure survive by themselves. Two things are asked of the value: that it
is canonical, because an object that is read is, and that its doubles are kept by their written form.
The depth of nesting does not matter here, since the reader of documents has no limit. Where a reader
has one, a value that it gave fits it again (`depth_toDocument_le`).
-/

namespace AccountDirectory.Json

/-- The literal that a number is written as, if its written form is one. -/
def Number.literal (n : Number) : Literal :=
  (Literal.ofChars? n.text).getD ⟨false, [], [], none⟩

namespace Value

mutual

/-- The document that is written for a value. -/
def toDocument : Value → Document
  | .null => .null
  | .bool b => .bool b
  | .number n => .number n.literal
  | .text s => .text (some s)
  | .list items => .list (toItems items)
  | .object members => .object (toMembers members)

/-- The documents of the items of a list. -/
def toItems : List Value → List Document
  | [] => []
  | v :: rest => toDocument v :: toItems rest

/-- The documents of the members of an object. -/
def toMembers : List (String × Value) → List (Option String × Document)
  | [] => []
  | (key, v) :: rest => (some key, toDocument v) :: toMembers rest

end

mutual

/-- **Every double in the value is kept** by its written form. -/
def keepsDoubles : Value → Bool
  | .number (.double x) => decide (Number.double x).IsKept
  | .list items => itemsKeepDoubles items
  | .object members => membersKeepDoubles members
  | _ => true

/-- Every item keeps its doubles. -/
def itemsKeepDoubles : List Value → Bool
  | [] => true
  | v :: rest => keepsDoubles v && itemsKeepDoubles rest

/-- Every member's value keeps its doubles. -/
def membersKeepDoubles : List (String × Value) → Bool
  | [] => true
  | (_, v) :: rest => keepsDoubles v && membersKeepDoubles rest

end

/-! ### Item by item -/

theorem toItems_eq_map (items : List Value) : toItems items = items.map toDocument := by
  induction items with
  | nil => rfl
  | cons v rest ih => rw [toItems, ih, List.map_cons]

theorem toMembers_eq_map (members : List (String × Value)) :
    toMembers members = members.map fun (key, v) ↦ (some key, v.toDocument) := by
  induction members with
  | nil => rfl
  | cons m rest ih =>
    obtain ⟨key, v⟩ := m
    rw [toMembers, ih, List.map_cons]

theorem membersKeepDoubles_iff {members : List (String × Value)} :
    membersKeepDoubles members ↔ ∀ m ∈ members, m.2.keepsDoubles := by
  induction members with
  | nil => simp [membersKeepDoubles]
  | cons m rest ih =>
    obtain ⟨key, v⟩ := m
    rw [membersKeepDoubles, Bool.and_eq_true, ih, List.forall_mem_cons]

theorem itemsKeepDoubles_iff {items : List Value} :
    itemsKeepDoubles items ↔ ∀ v ∈ items, v.keepsDoubles := by
  induction items with
  | nil => simp [itemsKeepDoubles]
  | cons v rest ih => rw [itemsKeepDoubles, Bool.and_eq_true, ih, List.forall_mem_cons]

/-! ### Numbers -/

theorem isKept_of_keepsDoubles {n : Number} (h : (Value.number n).keepsDoubles) : n.IsKept := by
  cases n with
  | integer n bounds => exact Number.isKept_integer n bounds
  | double x => exact of_decide_eq_true h

end Value

theorem Number.IsKept.ofChars?_eq {n : Number} (h : n.IsKept) :
    Literal.ofChars? n.text = some n.literal := by
  obtain ⟨lit, hlit, -⟩ := Option.bind_eq_some_iff.1 h
  rw [literal, hlit]
  rfl

theorem Number.IsKept.ofLiteral?_eq {n : Number} (h : n.IsKept) : ofLiteral? n.literal = some n := by
  have hbind : (Literal.ofChars? n.text).bind ofLiteral? = some n := h
  rwa [h.ofChars?_eq] at hbind

/-! ### The text spells the document -/

namespace Token

theorem scans_null : Scans "null".toList [.null] := .word rfl rfl rfl

theorem scans_bool (b : Bool) : Scans (boolText b) [.bool b] := by
  cases b with
  | true => exact .word rfl rfl rfl
  | false => exact .word rfl rfl rfl

theorem scans_number {n : Number} (h : (Value.number n).keepsDoubles) :
    Scans n.text [.number n.literal] :=
  .of_ofChars? (Value.isKept_of_keepsDoubles h).ofChars?_eq

end Token

namespace Value

open Token (Scans Continues)

mutual

theorem scans_compactText :
    ∀ v : Value, v.keepsDoubles → Scans v.compactText v.toDocument.tokens
  | .null, _ => Token.scans_null
  | .bool b, _ => Token.scans_bool b
  | .number _, h => Token.scans_number h
  | .text s, _ => .string s
  | .list [], _ => .empty rfl rfl
  | .list (v :: rest), h => by
    obtain ⟨hv, hrest⟩ := Bool.and_eq_true_iff.1 h
    have hscans := Scans.list [] [] rfl rfl (scans_compactText v hv)
      (continues_compactItems rest hrest)
    simpa [compactText, toDocument, toItems, Document.tokens] using hscans
  | .object [], _ => .empty rfl rfl
  | .object ((key, v) :: rest), h => by
    obtain ⟨hv, hrest⟩ := Bool.and_eq_true_iff.1 h
    have hscans := Scans.object [] [] rfl rfl (.member key [] rfl (scans_compactText v hv))
      (continues_compactMembers rest hrest)
    simpa [compactText, toDocument, toMembers, Document.tokens] using hscans

theorem continues_compactItems :
    ∀ items : List Value, itemsKeepDoubles items →
      Continues (compactItems items) (Document.itemTokens (toItems items))
  | [], _ => .nil
  | v :: rest, h => by
    obtain ⟨hv, hrest⟩ := Bool.and_eq_true_iff.1 h
    exact .item [] rfl (scans_compactText v hv) (continues_compactItems rest hrest)

theorem continues_compactMembers :
    ∀ members : List (String × Value), membersKeepDoubles members →
      Continues (compactMembers members) (Document.memberTokens (toMembers members))
  | [], _ => .nil
  | (key, v) :: rest, h => by
    obtain ⟨hv, hrest⟩ := Bool.and_eq_true_iff.1 h
    have hcontinues := Continues.item [] rfl (.member key [] rfl (scans_compactText v hv))
      (continues_compactMembers rest hrest)
    simpa [compactMembers, toMembers, Document.memberTokens] using hcontinues

end

/-- A line break and an indentation are blanks. -/
theorem all_isSpace_lineBreak (depth : Nat) : (lineBreak depth).all Token.isSpace := by
  simp [lineBreak, Token.isSpace, List.all_replicate]

mutual

theorem scans_prettyText :
    ∀ (depth : Nat) (v : Value), v.keepsDoubles → Scans (v.prettyText depth) v.toDocument.tokens
  | _, .null, _ => Token.scans_null
  | _, .bool b, _ => Token.scans_bool b
  | _, .number _, h => Token.scans_number h
  | _, .text s, _ => .string s
  | _, .list [], _ => .empty rfl rfl
  | depth, .list (v :: rest), h => by
    obtain ⟨hv, hrest⟩ := Bool.and_eq_true_iff.1 h
    have hscans := Scans.list (lineBreak (depth + 1)) (lineBreak depth) (all_isSpace_lineBreak _)
      (all_isSpace_lineBreak _) (scans_prettyText (depth + 1) v hv)
      (continues_prettyItems (depth + 1) rest hrest)
    simpa [prettyText, toDocument, toItems, Document.tokens] using hscans
  | _, .object [], _ => .empty rfl rfl
  | depth, .object ((key, v) :: rest), h => by
    obtain ⟨hv, hrest⟩ := Bool.and_eq_true_iff.1 h
    have hscans := Scans.object (lineBreak (depth + 1)) (lineBreak depth) (all_isSpace_lineBreak _)
      (all_isSpace_lineBreak _) (.member key [' '] rfl (scans_prettyText (depth + 1) v hv))
      (continues_prettyMembers (depth + 1) rest hrest)
    simpa [prettyText, toDocument, toMembers, Document.tokens] using hscans

theorem continues_prettyItems :
    ∀ (depth : Nat) (items : List Value), itemsKeepDoubles items →
      Continues (prettyItems depth items) (Document.itemTokens (toItems items))
  | _, [], _ => .nil
  | depth, v :: rest, h => by
    obtain ⟨hv, hrest⟩ := Bool.and_eq_true_iff.1 h
    have hcontinues := Continues.item (lineBreak depth) (all_isSpace_lineBreak _)
      (scans_prettyText depth v hv) (continues_prettyItems depth rest hrest)
    simpa [prettyItems, toItems, Document.itemTokens] using hcontinues

theorem continues_prettyMembers :
    ∀ (depth : Nat) (members : List (String × Value)), membersKeepDoubles members →
      Continues (prettyMembers depth members) (Document.memberTokens (toMembers members))
  | _, [], _ => .nil
  | depth, (key, v) :: rest, h => by
    obtain ⟨hv, hrest⟩ := Bool.and_eq_true_iff.1 h
    have hcontinues := Continues.item (lineBreak depth) (all_isSpace_lineBreak _)
      (.member key [' '] rfl (scans_prettyText depth v hv))
      (continues_prettyMembers depth rest hrest)
    simpa [prettyMembers, toMembers, Document.memberTokens] using hcontinues

end

/-- **The written form without blanks spells the value's document.** -/
theorem ofText?_compact {v : Value} (h : v.keepsDoubles) :
    Document.ofText? v.compact = some v.toDocument := by
  have hscan : Token.scan (v.compactText ++ []) = some v.toDocument.tokens :=
    (scans_compactText v h).scan_eq rfl
  rw [List.append_nil] at hscan
  rw [Document.ofText?, compact, String.toList_ofList, Document.ofChars?, hscan, Option.bind_some,
    Document.ofTokens?_tokens]

/-- **The written form on lines spells the value's document**, with any blanks after it. -/
theorem ofText?_pretty {v : Value} {after : String} (h : v.keepsDoubles)
    (hafter : after.toList.all Token.isSpace) :
    Document.ofText? (v.pretty ++ after) = some v.toDocument := by
  rw [Document.ofText?, pretty, String.toList_append, String.toList_ofList, Document.ofChars?,
    (scans_prettyText 0 v h).scan_eq hafter, Option.bind_some, Document.ofTokens?_tokens]

/-! ### The document means the value -/

theorem pairwise_of_rising : ∀ {keys : List String}, rising keys → keys.Pairwise (· < ·)
  | [], _ => .nil
  | [_], _ => List.pairwise_singleton _ _
  | a :: b :: rest, h => by
    obtain ⟨hab, hrest⟩ := Bool.and_eq_true_iff.1 h
    have hlt : a < b := of_decide_eq_true hab
    have hpairwise : (b :: rest).Pairwise (· < ·) := pairwise_of_rising hrest
    refine .cons (fun c hc ↦ ?_) hpairwise
    obtain rfl | hc := List.mem_cons.1 hc
    · exact hlt
    · exact String.lt_trans hlt (List.rel_of_pairwise_cons hpairwise hc)

/-- A member with the greatest key goes to the end. -/
theorem insertMember_eq_append {key : String} {v : Value} {members : List (String × Value)}
    (h : ∀ m ∈ members, m.1 < key) : insertMember key v members = members ++ [(key, v)] := by
  induction members with
  | nil => rfl
  | cons m rest ih =>
    obtain ⟨hm, hrest⟩ := List.forall_mem_cons.1 h
    have hne : key ≠ m.1 := fun heq ↦ String.lt_irrefl key (heq ▸ hm)
    rw [insertMember, if_neg (String.lt_asymm hm), if_neg hne, ih hrest, List.cons_append]

/-- **An object whose keys rise is put together from its own members.** -/
theorem objectOf_eq_self {members : List (String × Value)} (h : rising (members.map Prod.fst)) :
    objectOf members = members := by
  suffices ∀ before : List (String × Value),
      ((before ++ members).map Prod.fst).Pairwise (· < ·) →
        members.foldl (fun object m ↦ insertMember m.1 m.2 object) before = before ++ members from
    this [] (pairwise_of_rising h)
  clear h
  induction members with
  | nil => exact fun before _ ↦ (List.append_nil before).symm
  | cons m rest ih =>
    intro before h
    have hlast : ∀ m' ∈ before, m'.1 < m.1 := by
      rw [List.map_append, List.pairwise_append] at h
      exact fun m' hm' ↦ h.2.2 _ (List.mem_map_of_mem hm') _ List.mem_cons_self
    rw [List.foldl_cons, insertMember_eq_append hlast, ih, List.append_assoc,
      List.singleton_append]
    rwa [List.append_assoc]

mutual

/-- A canonical value is read back from its document, with any budget for its depth. -/
theorem ofDocument?_toDocument :
    ∀ {budget : Nat} {v : Value}, v.isCanonical → v.keepsDoubles → v.toDocument.depth ≤ budget →
      ofDocument? budget v.toDocument = some v
  | _, .null, _, _, _ | _, .bool _, _, _, _ | _, .text _, _, _, _ => rfl
  | _, .number n, _, hk, _ => by
    rw [toDocument, ofDocument?, (isKept_of_keepsDoubles hk).ofLiteral?_eq]
    rfl
  | budget, .list items, hc, hk, hd => by
    have hpos : budget ≠ 0 := Nat.ne_zero_of_lt hd
    rw [toDocument, ofDocument?, if_neg hpos,
      ofItems?_toItems hc hk (Nat.le_sub_one_of_lt hd), Option.map_some]
  | budget, .object members, hc, hk, hd => by
    have hpos : budget ≠ 0 := Nat.ne_zero_of_lt hd
    obtain ⟨hrising, hmembers⟩ := Bool.and_eq_true_iff.1 hc
    rw [toDocument, ofDocument?, if_neg hpos,
      ofMembers?_toMembers hmembers hk (Nat.le_sub_one_of_lt hd), Option.map_some,
      objectOf_eq_self hrising]

theorem ofItems?_toItems :
    ∀ {budget : Nat} {items : List Value}, areCanonical items → itemsKeepDoubles items →
      Document.depthOfItems (toItems items) ≤ budget → ofItems? budget (toItems items) = some items
  | _, [], _, _, _ => rfl
  | budget, v :: rest, hc, hk, hd => by
    obtain ⟨hcv, hcrest⟩ := Bool.and_eq_true_iff.1 hc
    obtain ⟨hkv, hkrest⟩ := Bool.and_eq_true_iff.1 hk
    obtain ⟨hdv, hdrest⟩ := max_le_iff.1 hd
    rw [toItems, ofItems?, ofDocument?_toDocument hcv hkv hdv, ofItems?_toItems hcrest hkrest hdrest]
    rfl

theorem ofMembers?_toMembers :
    ∀ {budget : Nat} {members : List (String × Value)}, membersAreCanonical members →
      membersKeepDoubles members → Document.depthOfMembers (toMembers members) ≤ budget →
        ofMembers? budget (toMembers members) = some members
  | _, [], _, _, _ => rfl
  | budget, (key, v) :: rest, hc, hk, hd => by
    obtain ⟨hcv, hcrest⟩ := Bool.and_eq_true_iff.1 hc
    obtain ⟨hkv, hkrest⟩ := Bool.and_eq_true_iff.1 hk
    obtain ⟨hdv, hdrest⟩ := max_le_iff.1 hd
    rw [toMembers, ofMembers?, ofDocument?_toDocument hcv hkv hdv,
      ofMembers?_toMembers hcrest hkrest hdrest]
    rfl

end

/-- **The document of a canonical value means the value.** -/
theorem value?_toDocument {v : Value} (hc : v.isCanonical) (hk : v.keepsDoubles) :
    v.toDocument.value? = some v :=
  ofDocument?_toDocument hc hk (Nat.le_refl _)

/-- Only `null` means `null`. -/
theorem eq_null_of_ofDocument? {budget : Nat} {d : Document}
    (h : ofDocument? budget d = some .null) : d = .null := by
  cases d with
  | null => rfl
  | bool b => cases h
  | number lit =>
    obtain ⟨_, -, hn⟩ := Option.map_eq_some_iff.1 h
    cases hn
  | text content =>
    obtain ⟨_, -, hs⟩ := Option.map_eq_some_iff.1 h
    cases hs
  | list | object =>
    rw [ofDocument?] at h
    split at h
    · cases h
    · obtain ⟨_, -, hv⟩ := Option.map_eq_some_iff.1 h
      cases hv

/-! ### A value is no deeper than what it was read from -/

theorem depthOfItems_toItems_le {items : List Value} {budget : Nat} :
    Document.depthOfItems (toItems items) ≤ budget ↔
      ∀ v ∈ items, v.toDocument.depth ≤ budget := by
  induction items with
  | nil => simp [toItems, Document.depthOfItems]
  | cons v rest ih => rw [toItems, Document.depthOfItems, max_le_iff, ih, List.forall_mem_cons]

theorem depthOfMembers_toMembers_le {members : List (String × Value)} {budget : Nat} :
    Document.depthOfMembers (toMembers members) ≤ budget ↔
      ∀ m ∈ members, m.2.toDocument.depth ≤ budget := by
  induction members with
  | nil => simp [toMembers, Document.depthOfMembers]
  | cons m rest ih =>
    obtain ⟨key, v⟩ := m
    rw [toMembers, Document.depthOfMembers, max_le_iff, ih, List.forall_mem_cons]

theorem mem_of_mem_insertMember {key : String} {v : Value} {members : List (String × Value)}
    {m : String × Value} (h : m ∈ insertMember key v members) : m = (key, v) ∨ m ∈ members := by
  induction members with
  | nil => exact .inl (List.mem_singleton.1 h)
  | cons first rest ih =>
    rw [insertMember] at h
    split at h
    · exact List.mem_cons.1 h
    · split at h
      · exact (List.mem_cons.1 h).imp_right (List.mem_cons_of_mem _)
      · obtain rfl | hrest := List.mem_cons.1 h
        · exact .inr List.mem_cons_self
        · exact (ih hrest).imp_right (List.mem_cons_of_mem _)

/-- An object is put together from the members alone. -/
theorem mem_of_mem_objectOf {members : List (String × Value)} {m : String × Value}
    (h : m ∈ objectOf members) : m ∈ members := by
  suffices ∀ before : List (String × Value),
      m ∈ members.foldl (fun object m ↦ insertMember m.1 m.2 object) before →
        m ∈ before ∨ m ∈ members from (this [] h).resolve_left List.not_mem_nil
  clear h
  induction members with
  | nil => exact fun before h ↦ .inl h
  | cons first rest ih =>
    intro before h
    obtain hbefore | hrest := ih _ h
    · obtain rfl | hbefore := mem_of_mem_insertMember hbefore
      · exact .inr List.mem_cons_self
      · exact .inl hbefore
    · exact .inr (List.mem_cons_of_mem _ hrest)

mutual

/-- **A value that is read fits the budget that it was read with.** -/
theorem depth_toDocument_le :
    ∀ {budget : Nat} {d : Document} {v : Value}, ofDocument? budget d = some v →
      v.toDocument.depth ≤ budget
  | _, .null, v, h => by
    obtain rfl : Value.null = v := Option.some.inj h
    exact Nat.zero_le _
  | _, .bool b, v, h => by
    obtain rfl : Value.bool b = v := Option.some.inj h
    exact Nat.zero_le _
  | _, .number lit, v, h => by
    obtain ⟨n, -, rfl⟩ := Option.map_eq_some_iff.1 h
    exact Nat.zero_le _
  | _, .text content, v, h => by
    obtain ⟨s, -, rfl⟩ := Option.map_eq_some_iff.1 h
    exact Nat.zero_le _
  | budget, .list items, v, h => by
    rw [ofDocument?] at h
    split at h
    · cases h
    · next hpos =>
      obtain ⟨vs, hvs, rfl⟩ := Option.map_eq_some_iff.1 h
      have hitems := depthOfItems_toItems_le.2 (depth_toDocument_le_of_ofItems? hvs)
      rw [toDocument, Document.depth]
      omega
  | budget, .object members, v, h => by
    rw [ofDocument?] at h
    split at h
    · cases h
    · next hpos =>
      obtain ⟨ms, hms, rfl⟩ := Option.map_eq_some_iff.1 h
      have hall : ∀ m ∈ objectOf ms, m.2.toDocument.depth ≤ budget - 1 :=
        fun m hm ↦ depth_toDocument_le_of_ofMembers? hms m (mem_of_mem_objectOf hm)
      have hmembers := depthOfMembers_toMembers_le.2 hall
      rw [toDocument, Document.depth]
      omega

theorem depth_toDocument_le_of_ofItems? :
    ∀ {budget : Nat} {items : List Document} {vs : List Value}, ofItems? budget items = some vs →
      ∀ v ∈ vs, v.toDocument.depth ≤ budget
  | _, [], vs, h => by
    obtain rfl : [] = vs := Option.some.inj h
    exact fun v hv ↦ absurd hv List.not_mem_nil
  | _, d :: rest, vs, h => by
    simp only [ofItems?, Option.bind_eq_bind, Option.bind_eq_some_iff, Option.some.injEq] at h
    obtain ⟨v, hv, later, hlater, rfl⟩ := h
    exact List.forall_mem_cons.2
      ⟨depth_toDocument_le hv, depth_toDocument_le_of_ofItems? hlater⟩

theorem depth_toDocument_le_of_ofMembers? :
    ∀ {budget : Nat} {members : List (Option String × Document)} {ms : List (String × Value)},
      ofMembers? budget members = some ms → ∀ m ∈ ms, m.2.toDocument.depth ≤ budget
  | _, [], ms, h => by
    obtain rfl : [] = ms := Option.some.inj h
    exact fun m hm ↦ absurd hm List.not_mem_nil
  | _, (key, d) :: rest, ms, h => by
    simp only [ofMembers?, Option.bind_eq_bind, Option.bind_eq_some_iff, Option.some.injEq] at h
    obtain ⟨k, -, v, hv, later, hlater, rfl⟩ := h
    exact List.forall_mem_cons.2
      ⟨depth_toDocument_le hv, depth_toDocument_le_of_ofMembers? hlater⟩

end

end Value

/-- **A blank text spells no document.** -/
theorem Document.not_isBlankText_of_ofText? {s : String} {d : Document}
    (h : Document.ofText? s = some d) : ¬Text.isBlankText s := by
  intro hblank
  obtain ⟨k, hk, hd⟩ := Option.bind_eq_some_iff.1 h
  obtain rfl := Token.eq_nil_of_scanFrom_blank hblank hk
  cases hd

end AccountDirectory.Json
