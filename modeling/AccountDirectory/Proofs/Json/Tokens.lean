import AccountDirectory.Json.Document

/-!
# The tokens of a document

`Document.tokens` spells a document, and `ofTokens?_tokens` says that every document is read back from
its tokens. Nothing else is read: tokens that are read as a document are the tokens of it
(`ofTokens?_eq_some_iff`).

The reader keeps the open containers on a stack, so the induction is over what it does below any
stack: the tokens of a document take it from where a value is expected to where the document is the
last thing read (`reads_tokens`). Inside a container, the items so far are on the stack with the last
one first. Conversely, each point of the reader tells which tokens have been read (`HasRead`), and a
step adds one to them.
-/

namespace AccountDirectory.Json.Document

mutual

/-- The tokens that spell a document. -/
def tokens : Document → List Token
  | .null => [.null]
  | .bool b => [.bool b]
  | .number lit => [.number lit]
  | .text content => [.text content]
  | .list [] => [.openList, .closeList]
  | .list (d :: rest) => .openList :: (tokens d ++ (itemTokens rest ++ [.closeList]))
  | .object [] => [.openObject, .closeObject]
  | .object ((key, d) :: rest) =>
    .openObject :: ((.text key :: .colon :: tokens d) ++ (memberTokens rest ++ [.closeObject]))

/-- The items after the first one. -/
def itemTokens : List Document → List Token
  | [] => []
  | d :: rest => .comma :: (tokens d ++ itemTokens rest)

/-- The members after the first one. -/
def memberTokens : List (Option String × Document) → List Token
  | [] => []
  | (key, d) :: rest => .comma :: ((.text key :: .colon :: tokens d) ++ memberTokens rest)

end

/-! ### Reading -/

/-- The tokens take the reader from one point to another. -/
def Reads (r : Reading) (ts : List Token) (r' : Reading) : Prop := ts.foldlM step? r = some r'

variable {r r' r'' : Reading} {t : Token} {ts ts' : List Token}

theorem Reads.nil : Reads r [] r := rfl

theorem Reads.cons (h : step? r t = some r') (hs : Reads r' ts r'') : Reads r (t :: ts) r'' := by
  rw [Reads, List.foldlM_cons, h]
  exact hs

theorem Reads.append (h : Reads r ts r') (hs : Reads r' ts' r'') : Reads r (ts ++ ts') r'' := by
  have h : ts.foldlM step? r = some r' := h
  rw [Reads, List.foldlM_append, h]
  exact hs

/-- Where a list has just been opened, a document begins as it does elsewhere. -/
theorem Reads.firstItem {d : Document} {stack : List Frame}
    (h : Reads ⟨.value, .list [] :: stack⟩ d.tokens r) :
    Reads ⟨.firstItem, .list [] :: stack⟩ d.tokens r := by
  -- no document begins with the bracket that closes the list
  rcases d with - | _ | _ | _ | (- | ⟨d, rest⟩) | (- | ⟨⟨key, d⟩, rest⟩)
  all_goals
    rw [tokens] at h ⊢
    exact h

mutual

/-- **The tokens of a document are read as this document**, below any open containers. -/
theorem reads_tokens (stack : List Frame) :
    ∀ d : Document, Reads ⟨.value, stack⟩ d.tokens ⟨.more d, stack⟩
  | .null | .bool _ | .number _ | .text _ => rfl
  | .list [] => rfl
  | .list (d :: rest) => by
    rw [tokens]
    exact .cons rfl ((reads_tokens _ d).firstItem.append (reads_itemTokens stack d [] rest))
  | .object [] => rfl
  | .object ((key, d) :: rest) => by
    rw [tokens]
    exact .cons rfl (.append (.cons rfl (.cons rfl (reads_tokens _ d)))
      (reads_memberTokens stack key d [] rest))

theorem reads_itemTokens (stack : List Frame) (last : Document) (before : List Document) :
    ∀ rest : List Document, Reads ⟨.more last, .list before :: stack⟩
      (itemTokens rest ++ [.closeList]) ⟨.more (.list ((last :: before).reverse ++ rest)), stack⟩
  | [] => by
    rw [List.append_nil]
    exact .cons rfl .nil
  | d :: rest => by
    rw [itemTokens, List.cons_append, List.append_assoc, List.append_cons _ d,
      ← List.reverse_cons]
    exact .cons rfl ((reads_tokens _ d).append (reads_itemTokens stack d (last :: before) rest))

theorem reads_memberTokens (stack : List Frame) (key : Option String) (last : Document)
    (before : List (Option String × Document)) :
    ∀ rest : List (Option String × Document), Reads ⟨.more last, .object before key :: stack⟩
      (memberTokens rest ++ [.closeObject])
        ⟨.more (.object (((key, last) :: before).reverse ++ rest)), stack⟩
  | [] => by
    rw [List.append_nil]
    exact .cons rfl .nil
  | (key', d) :: rest => by
    rw [memberTokens, List.cons_append, List.append_assoc, List.append_cons _ (key', d),
      ← List.reverse_cons]
    exact .cons rfl (.append (.cons rfl (.cons rfl (reads_tokens _ d)))
      (reads_memberTokens stack key' d ((key, last) :: before) rest))

end

/-- **Every document is read back from its tokens.** -/
theorem ofTokens?_tokens (d : Document) : ofTokens? d.tokens = some d := by
  have h : d.tokens.foldlM step? ⟨.value, []⟩ = some ⟨.more d, []⟩ := reads_tokens [] d
  rw [ofTokens?, h]
  rfl

/-! ### Nothing else is read -/

/-- The items of an open list (last first), each with the comma after it. -/
def itemsBefore (items : List Document) : List Token :=
  items.reverse.flatMap fun d ↦ d.tokens ++ [.comma]

/-- The members of an open object (last first), each with the comma after it. -/
def membersBefore (members : List (Option String × Document)) : List Token :=
  members.reverse.flatMap fun m ↦ .text m.1 :: .colon :: (m.2.tokens ++ [.comma])

/-- What has been read of an open container, up to the value that is being read. -/
def Frame.tokens : Frame → List Token
  | .list items => .openList :: itemsBefore items
  | .object members key => .openObject :: (membersBefore members ++ [.text key, .colon])

/-- What has been read of the open containers. -/
def stackTokens (stack : List Frame) : List Token := stack.reverse.flatMap Frame.tokens

theorem stackTokens_cons (frame : Frame) (stack : List Frame) :
    stackTokens (frame :: stack) = stackTokens stack ++ frame.tokens := by
  simp [stackTokens]

theorem itemsBefore_cons (d : Document) (items : List Document) :
    itemsBefore (d :: items) = itemsBefore items ++ (d.tokens ++ [.comma]) := by
  simp [itemsBefore]

theorem membersBefore_cons (key : Option String) (d : Document)
    (members : List (Option String × Document)) :
    membersBefore ((key, d) :: members) =
      membersBefore members ++ .text key :: .colon :: (d.tokens ++ [.comma]) := by
  simp [membersBefore]

/-- A comma after each item but the last is a comma before each item but the first. -/
theorem tokens_append_itemTokens (first last : Document) (rest : List Document) :
    first.tokens ++ itemTokens (rest ++ [last]) =
      (first :: rest).flatMap (fun d ↦ d.tokens ++ [.comma]) ++ last.tokens := by
  induction rest generalizing first with
  | nil => simp [itemTokens]
  | cons d rest ih =>
    rw [List.cons_append, itemTokens, ih d]
    simp

theorem tokens_append_memberTokens (key key' : Option String) (first last : Document)
    (rest : List (Option String × Document)) :
    .text key :: .colon :: (first.tokens ++ memberTokens (rest ++ [(key', last)])) =
      ((key, first) :: rest).flatMap
          (fun m ↦ .text m.1 :: .colon :: (m.2.tokens ++ [.comma])) ++
        .text key' :: .colon :: last.tokens := by
  induction rest generalizing key first with
  | nil => simp [memberTokens]
  | cons m rest ih =>
    obtain ⟨k, d⟩ := m
    rw [List.cons_append, memberTokens, List.cons_append, List.cons_append, ih k d]
    simp

/-- The tokens of a list that is closed after its last item. -/
theorem tokens_list_reverse (d : Document) (items : List Document) :
    (Document.list (d :: items).reverse).tokens =
      .openList :: (itemsBefore items ++ (d.tokens ++ [.closeList])) := by
  rw [List.reverse_cons, itemsBefore]
  cases items.reverse with
  | nil => simp [tokens, itemTokens]
  | cons first rest =>
    rw [List.cons_append, tokens, ← List.append_assoc, tokens_append_itemTokens, List.append_assoc]

theorem tokens_object_reverse (key : Option String) (d : Document)
    (members : List (Option String × Document)) :
    (Document.object ((key, d) :: members).reverse).tokens =
      .openObject :: (membersBefore members ++
        .text key :: .colon :: (d.tokens ++ [.closeObject])) := by
  rw [List.reverse_cons, membersBefore]
  cases members.reverse with
  | nil => simp [tokens, memberTokens]
  | cons first rest =>
    obtain ⟨key', first⟩ := first
    have h := congrArg (· ++ [Token.closeObject]) (tokens_append_memberTokens key' key first d rest)
    rw [List.cons_append, tokens]
    simpa using h

/-- **What has been read when the reader is at a point.** -/
inductive HasRead : Reading → List Token → Prop
  | value {stack} : HasRead ⟨.value, stack⟩ (stackTokens stack)
  | firstItem {stack} : HasRead ⟨.firstItem, .list [] :: stack⟩ (stackTokens stack ++ [.openList])
  | firstKey {stack} : HasRead ⟨.firstKey, stack⟩ (stackTokens stack ++ [.openObject])
  | key {members stack} : HasRead ⟨.key members, stack⟩
      (stackTokens stack ++ .openObject :: membersBefore members)
  | colon {members key stack} : HasRead ⟨.colon, .object members key :: stack⟩
      (stackTokens stack ++ .openObject :: (membersBefore members ++ [.text key]))
  | more {d stack} : HasRead ⟨.more d, stack⟩ (stackTokens stack ++ d.tokens)

/-- The same with what has been read under an equation. -/
theorem HasRead.of_eq (h : HasRead r ts) (heq : ts = ts') : HasRead r ts' := heq ▸ h

theorem HasRead.begin {stack : List Frame} (h : begin? stack t = some r) :
    HasRead r (stackTokens stack ++ [t]) := by
  have hsingle : ∀ d, ofToken? t = some d → d.tokens = [t] := by
    intro d hd
    cases t <;> cases hd <;> rw [tokens]
  have hvalue : (ofToken? t).map (fun d ↦ (⟨.more d, stack⟩ : Reading)) = some r →
      HasRead r (stackTokens stack ++ [t]) := by
    intro hr
    obtain ⟨d, hd, rfl⟩ := Option.map_eq_some_iff.1 hr
    exact hsingle d hd ▸ .more
  cases t with
  | openList =>
    cases h
    exact .firstItem
  | openObject =>
    cases h
    exact .firstKey
  | _ => exact hvalue h

/-- **A step reads one token.** -/
theorem HasRead.step (hr : HasRead r ts) (h : step? r t = some r') : HasRead r' (ts ++ [t]) := by
  cases hr with
  | value => exact .begin (by cases t <;> exact h)
  | @firstItem stack =>
    have hopen : stackTokens stack ++ [.openList] = stackTokens (.list [] :: stack) := by
      rw [stackTokens_cons]
      rfl
    cases t with
    | closeList =>
      cases h
      refine HasRead.more.of_eq ?_
      rw [tokens, List.append_assoc]
      rfl
    | _ => exact hopen ▸ .begin h
  | @firstKey stack =>
    cases t with
    | closeObject =>
      cases h
      refine HasRead.more.of_eq ?_
      rw [tokens, List.append_assoc]
      rfl
    | text key =>
      cases h
      refine HasRead.colon.of_eq ?_
      rw [List.append_assoc]
      rfl
    | _ => cases h
  | @key members stack =>
    cases t with
    | text key =>
      cases h
      refine HasRead.colon.of_eq ?_
      rw [List.append_assoc]
      rfl
    | _ => cases h
  | @colon members key stack =>
    cases t with
    | colon =>
      cases h
      refine HasRead.value.of_eq ?_
      rw [stackTokens_cons, Frame.tokens, List.append_assoc]
      simp
    | _ => cases h
  | @more d stack =>
    rcases stack with - | ⟨items | ⟨members, key⟩, stack⟩
    · cases t <;> cases h
    · cases t with
      | comma =>
        cases h
        refine HasRead.value.of_eq ?_
        rw [stackTokens_cons, stackTokens_cons, Frame.tokens, Frame.tokens, itemsBefore_cons]
        simp
      | closeList =>
        cases h
        refine HasRead.more.of_eq ?_
        rw [stackTokens_cons, tokens_list_reverse, Frame.tokens]
        simp
      | _ => cases h
    · cases t with
      | comma =>
        cases h
        refine HasRead.key.of_eq ?_
        rw [stackTokens_cons, Frame.tokens, membersBefore_cons]
        simp
      | closeObject =>
        cases h
        refine HasRead.more.of_eq ?_
        rw [stackTokens_cons, tokens_object_reverse, Frame.tokens]
        simp
      | _ => cases h

/-- And so a run reads its tokens. -/
theorem HasRead.reads (hr : HasRead r ts) (h : Reads r ts' r') : HasRead r' (ts ++ ts') := by
  induction ts' generalizing r ts with
  | nil =>
    obtain rfl : r = r' := Option.some.inj h
    rwa [List.append_nil]
  | cons t ts' ih =>
    obtain ⟨s, hs, hrest⟩ := Option.bind_eq_some_iff.1 h
    rw [← List.singleton_append, ← List.append_assoc]
    exact ih (hr.step hs) hrest

/-- **The tokens that are read as a document are the tokens of it.** -/
theorem ofTokens?_eq_some_iff {d : Document} : ofTokens? ts = some d ↔ ts = d.tokens := by
  constructor
  · intro h
    obtain ⟨r, hreads, hcomplete⟩ := Option.bind_eq_some_iff.1 h
    have hread : HasRead r ts := HasRead.value.reads hreads
    cases hread with
    | @more last stack =>
      -- a document is complete where no container is open
      cases stack with
      | nil =>
        obtain rfl : last = d := Option.some.inj hcomplete
        rfl
      | cons => cases hcomplete
    | _ => cases hcomplete
  · rintro rfl
    exact ofTokens?_tokens d

end AccountDirectory.Json.Document
