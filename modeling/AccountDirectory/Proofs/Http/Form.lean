import AccountDirectory.Proofs.Http.WebAddress
import AccountDirectory.Proofs.Items

/-!
# Queries as forms

The query of an address is read as a form: pairs of a name and a value, cut at `&` and at the first
`=`. In both parts a `+` is a space, and escapes are octets of UTF-8 (`Form.pairs?`).

**What is written is read.** A part stands for a text if it is read as this text and has none of the
marks of a form (`Form.Stands`). A query that is put together from such parts is read as the pairs of
their texts (`Form.pairs?_joined`). An escaped text stands for the text, whatever is in it, also
behind a beginning that needs no escape (`Form.stands_append_encode`).
-/

namespace AccountDirectory.Http.Form

open Text.Percent (IsPlain)

/-! ### Reading -/

/-- The text of a part. -/
def text? (cs : List Char) : Option String :=
  (Text.Utf8.decode? (Text.Percent.decode (cs.map fun c ↦ if c = '+' then ' ' else c))).map
    String.ofList

/-- The pair that is cut at the first `=`; without one there is no value. -/
def pair? (cs : List Char) : Option (String × String) := do
  let (name, value) := cutBefore (· == '=') cs
  let name ← text? name
  let value ← text? value.tail
  some (name, value)

/-- The pairs of a query. Nothing between two marks is no pair. -/
def pairs? (query : String) : Option (List (String × String)) :=
  ((Text.pieces '&' query.toList).filter (!·.isEmpty)).mapM pair?

/-! ### Writing -/

/-- A name and a value as a pair. -/
def pairText (part : List Char × List Char) : List Char := part.1 ++ '=' :: part.2

/-- The first pair, and the others with the mark before each. -/
def joined (first : List Char × List Char) (others : List (List Char × List Char)) : List Char :=
  pairText first ++ others.flatMap fun part ↦ '&' :: pairText part

/-- **The part stands for a text**: it is read as it, and has none of the marks of a form. -/
structure Stands (part : List Char) (text : String) : Prop where
  unmarked : ∀ c ∈ part, c ∉ ['&', '=', '+']
  read : text? part = some text

variable {first part : List Char × List Char} {others : List (List Char × List Char)}
  {pair : String × String} {pairs : List (String × String)}

/-- A pair of parts that stand for texts. -/
def PairStands (part : List Char × List Char) (pair : String × String) : Prop :=
  Stands part.1 pair.1 ∧ Stands part.2 pair.2

theorem PairStands.notMem_pairText (h : PairStands part pair) : '&' ∉ pairText part := by
  intro hmem
  rcases List.mem_append.1 hmem with hmem | hmem
  · exact h.1.unmarked _ hmem (by decide)
  · rcases List.mem_cons.1 hmem with heq | hmem
    · cases heq
    · exact h.2.unmarked _ hmem (by decide)

theorem PairStands.pair?_pairText (h : PairStands part pair) :
    pair? (pairText part) = some pair := by
  have hname : ∀ c ∈ part.1, (c == '=') = false := by
    intro c hc
    refine beq_eq_false_iff_ne.2 ?_
    rintro rfl
    exact h.1.unmarked _ hc (by decide)
  rw [pair?, pairText, cutBefore_append_cons hname rfl]
  simp [h.1.read, h.2.read]

/-- The query is cut where it was put together. -/
theorem pieces_joined (h : ∀ part ∈ first :: others, '&' ∉ pairText part) :
    Text.pieces '&' (joined first others) = (first :: others).map pairText := by
  induction others generalizing first with
  | nil =>
    rw [joined, List.flatMap_nil, List.append_nil,
      Text.pieces_eq_singleton (h first List.mem_cons_self)]
    rfl
  | cons second others ih =>
    obtain ⟨hfirst, hothers⟩ := List.forall_mem_cons.1 h
    -- behind the first pair stands the query of the others, with its mark
    exact (Text.pieces_append_cons hfirst).trans (congrArg (pairText first :: ·) (ih hothers))

/-- **A query is read as the pairs that it was put together from.** -/
theorem pairs?_joined (h : List.Forall₂ PairStands (first :: others) pairs) :
    pairs? (String.ofList (joined first others)) = some pairs := by
  have hpart : ∀ part ∈ first :: others, '&' ∉ pairText part := by
    intro part hpart
    obtain ⟨n, hn, rfl⟩ := List.getElem_of_mem hpart
    exact (h.get hn (h.length_eq ▸ hn)).notMem_pairText
  have hkept : ((first :: others).map pairText).filter (!·.isEmpty) =
      (first :: others).map pairText := by
    refine List.filter_eq_self.2 fun piece hpiece ↦ ?_
    obtain ⟨part, -, rfl⟩ := List.mem_map.1 hpiece
    simp [pairText]
  rw [pairs?, String.toList_ofList, pieces_joined hpart, hkept, mapM_eq_some_iff,
    List.forall₂_map_left_iff]
  exact h.imp fun part pair hpair ↦ hpair.pair?_pairText

/-- A query is made of the characters of its parts and of the marks between them. -/
theorem isQueryChar_of_mem_joined
    (h : ∀ part ∈ first :: others, ∀ c ∈ part.1 ++ part.2, IsQueryChar c) :
    ∀ c ∈ joined first others, IsQueryChar c := by
  have hpair : ∀ part ∈ first :: others, ∀ c ∈ pairText part, IsQueryChar c := by
    intro part hpart c hc
    rcases List.mem_append.1 hc with hc | hc
    · exact h part hpart c (List.mem_append_left _ hc)
    · rcases List.mem_cons.1 hc with rfl | hc
      · exact .inr (by decide)
      · exact h part hpart c (List.mem_append_right _ hc)
  intro c hc
  rcases List.mem_append.1 hc with hc | hc
  · exact hpair first List.mem_cons_self c hc
  · obtain ⟨part, hpart, hc⟩ := List.mem_flatMap.1 hc
    rcases List.mem_cons.1 hc with rfl | hc
    · exact .inr (by decide)
    · exact hpair part (List.mem_cons_of_mem _ hpart) c hc

/-! ### Escaped texts -/

/-- **An escaped text stands for the text**, behind a beginning that needs no escape. -/
theorem stands_append_encode {front : String}
    (h : front.toList.Forall fun c ↦ c ∉ ['&', '=', '+', '%']) (s : String) :
    Stands (front.toList ++ Text.Percent.encode s.toList) (front ++ s) := by
  rw [List.forall_iff_forall_mem] at h
  have hunmarked : ∀ c ∈ front.toList ++ Text.Percent.encode s.toList, c ∉ ['&', '=', '+'] := by
    have hreserved : ∀ x ∈ ['&', '=', '+'], Text.Percent.isUnreserved x = false ∧ x ≠ '%' :=
      List.forall_iff_forall_mem.1 (by decide)
    intro c hc hmark
    rcases List.mem_append.1 hc with hc | hc
    · exact h c hc (List.mem_append_left ['%'] hmark)
    · have hplain : IsPlain c := Text.Percent.isPlain_of_mem_encode hc
      exact hplain.ne (hreserved c hmark).1 (hreserved c hmark).2 rfl
  have hspaces : (front.toList ++ Text.Percent.encode s.toList).map
      (fun c ↦ if c = '+' then ' ' else c) = front.toList ++ Text.Percent.encode s.toList := by
    refine (List.map_congr_left fun c hc ↦ if_neg ?_).trans (List.map_id _)
    rintro rfl
    exact hunmarked _ hc (by decide)
  have hescapes : ∀ c ∈ front.toList, c ≠ '%' := by
    rintro c hc rfl
    exact h _ hc (by decide)
  have hoctets : Text.Percent.decode (front.toList ++ Text.Percent.encode s.toList) =
      Text.Utf8.encode (front ++ s).toList := by
    rw [Text.Percent.decode_append hescapes, Text.Percent.decode_encode, String.toList_append,
      Text.Utf8.encode, Text.Utf8.encode, Text.Utf8.encode, List.flatMap_append]
  refine ⟨hunmarked, ?_⟩
  rw [text?, hspaces, hoctets, Text.Utf8.decode?_encode, Option.map_some, String.ofList_toList]

theorem stands_encode (s : String) : Stands (Text.Percent.encode s.toList) s := by
  have hstands := @stands_append_encode "" trivial s
  rwa [String.empty_append] at hstands

/-- A text that needs no escape stands for itself. -/
theorem stands_self {s : String} (h : s.toList.Forall fun c ↦ c ∉ ['&', '=', '+', '%']) :
    Stands s.toList s := by
  have hstands := stands_append_encode h ""
  rwa [String.append_empty, String.toList_empty, Text.Percent.encode, List.flatMap_nil,
    List.append_nil] at hstands

end AccountDirectory.Http.Form
