import AccountDirectory.Lookup
import AccountDirectory.Proofs.Json.Nesting
import AccountDirectory.Proofs.Json.Tokens
import AccountDirectory.Proofs.Text.Base64Url
import AccountDirectory.Proofs.Text.Blank
import AccountDirectory.Proofs.Text.Utf8

/-!
# The shape of a token

A text has the shape of a token if and only if it is the written form of an object, a dot, a word, a
dot and a word (`looksLikeToken_iff`). A word is any text over the alphabet, so nothing is asked of
payload and signature but their letters, and they need not be written forms.

**The first segment.** Strict reading of the base-64 form is the inverse of writing it
(`Text.Base64Url.decode?_eq_some_iff`), so a segment that is accepted is the only way to write its
octets. What is refused can be told by its letters (`Text.Base64Url.IsWrittenForm`).

**Objects.** The octets are the UTF-8 form of a text whose tokens are those of an object. Each of
the three readers on the way is the inverse of its writer as well
(`Text.Utf8.decode?_eq_some_iff`, `Json.Document.ofTokens?_eq_some_iff`), and the budget of the last
one is a limit on the depth (`Json.Value.ofDocument?_eq_some_iff`).
-/

namespace AccountDirectory

open Json (Document Value)
open Text.Base64Url (encode alphabet IsWrittenForm)

/-! ### Objects -/

/-- **The octets are the text of an object**, in UTF-8: its tokens are those of an object of at most
127 levels, in which every number and every string has a value. -/
def Json.IsObjectText (octets : List UInt8) : Prop :=
  ∃ (cs : List Char) (members : List (Option String × Document)),
    octets = Text.Utf8.encode cs ∧
    Token.scan cs = some (Document.object members).tokens ∧
    (Document.object members).depth ≤ 127 ∧
    (Document.object members).value?.isSome

/-- The tokens of a document that is read. -/
theorem Json.Document.ofOctets?_eq_some_iff {octets : List UInt8} {d : Document} :
    ofOctets? octets = some d ↔
      ∃ cs, octets = Text.Utf8.encode cs ∧ Token.scan cs = some d.tokens := by
  simp only [ofOctets?, ofChars?, Option.bind_eq_some_iff, Text.Utf8.decode?_eq_some_iff,
    ofTokens?_eq_some_iff, exists_eq_right]

/-- Only an object is read as one. -/
theorem Json.Value.exists_object_of_isObject {budget : Nat} {d : Document} {v : Value}
    (h : ofDocument? budget d = some v) (hv : v.isObject) : ∃ members, d = .object members := by
  cases d with
  | object members => exact ⟨members, rfl⟩
  | null | bool =>
    cases h
    cases hv
  | number | text =>
    obtain ⟨_, -, rfl⟩ := Option.map_eq_some_iff.1 h
    cases hv
  | list items =>
    rw [ofDocument?] at h
    split at h
    · cases h
    · obtain ⟨_, -, rfl⟩ := Option.map_eq_some_iff.1 h
      cases hv

/-- An object is read as one. -/
theorem Json.Value.isObject_of_value? {members : List (Option String × Document)} {v : Value}
    (h : (Document.object members).value? = some v) : v.isObject := by
  rw [Document.value?, ofDocument?] at h
  split at h
  · cases h
  · obtain ⟨_, -, rfl⟩ := Option.map_eq_some_iff.1 h
    rfl

theorem Json.IsObjectText.ne_nil {octets : List UInt8} (h : IsObjectText octets) : octets ≠ [] := by
  rintro rfl
  obtain ⟨cs, members, hcs, hscan, -, -⟩ := h
  have hnil : cs = [] := Text.Utf8.encode_injective hcs.symm
  rw [hnil] at hscan
  -- an object has tokens, and nothing is not written with any
  cases members with
  | nil => cases hscan
  | cons => cases hscan

namespace Lookup

theorem isJsonObject_iff {octets : List UInt8} :
    isJsonObject octets ↔ Json.IsObjectText octets := by
  rw [isJsonObject]
  constructor
  · intro h
    split at h
    · next v hv =>
      obtain ⟨d, hd, hread⟩ := Option.bind_eq_some_iff.1 hv
      obtain ⟨members, rfl⟩ := Value.exists_object_of_isObject hread h
      obtain ⟨cs, hcs, hscan⟩ := Document.ofOctets?_eq_some_iff.1 hd
      obtain ⟨hdepth, hvalue⟩ := Value.ofDocument?_eq_some_iff.1 hread
      exact ⟨cs, members, hcs, hscan, hdepth, Option.isSome_of_eq_some hvalue⟩
    · cases h
  · rintro ⟨cs, members, hcs, hscan, hdepth, hsome⟩
    obtain ⟨v, hvalue⟩ := Option.isSome_iff_exists.1 hsome
    have hd := Document.ofOctets?_eq_some_iff.2 ⟨cs, hcs, hscan⟩
    have hread := Value.ofDocument?_eq_some_iff.2 ⟨hdepth, hvalue⟩
    rw [hd, Option.bind_some, Json.nestingLimit, hread]
    exact Value.isObject_of_value? hvalue

/-! ### Segments -/

/-- **A word** over the alphabet, not empty. -/
def IsWord (cs : List Char) : Prop := cs ≠ [] ∧ ∀ c ∈ cs, c ∈ alphabet

theorem isSegment_iff {cs : List Char} : isSegment cs ↔ IsWord cs := by
  simp [isSegment, IsWord, Text.Base64Url.isLetter_iff_mem_alphabet]

theorem IsWord.dot_notMem {cs : List Char} (h : IsWord cs) : '.' ∉ cs :=
  fun hdot ↦ Text.Base64Url.notMem_alphabet (by decide) (h.2 '.' hdot)

/-- The written form of an object is a word. -/
theorem isWord_encode {octets : List UInt8} (h : octets ≠ []) : IsWord (encode octets) :=
  ⟨Text.Base64Url.encode_ne_nil h, (Text.Base64Url.isWrittenForm_encode octets).letters⟩

/-- The pieces between the dots of three words. -/
theorem pieces_eq_triple {header payload signature : List Char} (hheader : '.' ∉ header)
    (hpayload : '.' ∉ payload) (hsignature : '.' ∉ signature) :
    Text.pieces '.' (header ++ '.' :: (payload ++ '.' :: signature)) =
      [header, payload, signature] := by
  rw [Text.pieces_append_cons hheader, Text.pieces_append_cons hpayload,
    Text.pieces_eq_singleton hsignature]

theorem eq_of_pieces_eq_triple {cs header payload signature : List Char}
    (h : Text.pieces '.' cs = [header, payload, signature]) :
    cs = header ++ '.' :: (payload ++ '.' :: signature) := by
  obtain ⟨rest, rfl, hrest⟩ := Text.exists_of_pieces_eq_cons h
  obtain ⟨last, rfl, hlast⟩ := Text.exists_of_pieces_eq_cons hrest
  rw [Text.eq_of_pieces_eq_singleton hlast]

/-! ### Tokens -/

/-- **The shape of a token**: the written form of an object, and two words. -/
theorem looksLikeToken_iff {cs : List Char} :
    looksLikeToken cs ↔ ∃ header payload signature,
      Json.IsObjectText header ∧ IsWord payload ∧ IsWord signature ∧
        cs = encode header ++ '.' :: (payload ++ '.' :: signature) := by
  constructor
  · intro h
    rw [looksLikeToken] at h
    split at h
    · next heading payload signature hpieces =>
      simp only [Bool.and_eq_true, isSegment_iff] at h
      obtain ⟨⟨⟨-, hpayload⟩, hsignature⟩, h⟩ := h
      split at h
      · next header hheader =>
        obtain rfl := Text.Base64Url.decode?_eq_some_iff.1 hheader
        exact ⟨header, payload, signature, isJsonObject_iff.1 h, hpayload, hsignature,
          eq_of_pieces_eq_triple hpieces⟩
      · cases h
    · cases h
  · rintro ⟨header, payload, signature, hheader, hpayload, hsignature, rfl⟩
    have hword := isWord_encode hheader.ne_nil
    rw [looksLikeToken, pieces_eq_triple hword.dot_notMem hpayload.dot_notMem hsignature.dot_notMem]
    dsimp only
    rw [isSegment_iff.2 hword, isSegment_iff.2 hpayload, isSegment_iff.2 hsignature,
      Text.Base64Url.decode?_encode]
    exact isJsonObject_iff.2 hheader

/-! ### What a token is written with -/

section Characters

variable {token : List Char}

/-- A token consists of letters and dots. -/
theorem eq_dot_or_mem_alphabet (h : looksLikeToken token) {c : Char} (hc : c ∈ token) :
    c = '.' ∨ c ∈ alphabet := by
  obtain ⟨header, payload, signature, hheader, hpayload, hsignature, rfl⟩ := looksLikeToken_iff.1 h
  simp only [List.mem_append, List.mem_cons] at hc
  rcases hc with hc | rfl | hc | rfl | hc
  · exact .inr ((isWord_encode hheader.ne_nil).2 c hc)
  · exact .inl rfl
  · exact .inr (hpayload.2 c hc)
  · exact .inl rfl
  · exact .inr (hsignature.2 c hc)

theorem not_isBlank_of_mem_token (h : looksLikeToken token) {c : Char} (hc : c ∈ token) :
    ¬Text.isBlank c := by
  obtain rfl | hletter := eq_dot_or_mem_alphabet h hc
  · decide
  · obtain ⟨n, -, rfl⟩ := Text.Base64Url.mem_alphabet_iff_exists.1 hletter
    exact Text.Base64Url.not_isBlank_letter n

theorem pipe_notMem_token (h : looksLikeToken token) : '|' ∉ token := by
  intro hpipe
  obtain hdot | hletter := eq_dot_or_mem_alphabet h hpipe
  · cases hdot
  · exact Text.Base64Url.notMem_alphabet (by decide) hletter

theorem ne_nil_of_looksLikeToken (h : looksLikeToken token) : token ≠ [] := by
  rintro rfl
  cases h

/-- A token has no blank at its ends. -/
theorem trimBoth_of_token (h : looksLikeToken token) : Text.trimBoth token = token :=
  Text.trimBoth_eq_self (fun _ hc ↦ not_isBlank_of_mem_token h (List.mem_of_mem_head? hc))
    fun _ hc ↦ not_isBlank_of_mem_token h (List.mem_of_mem_getLast? hc)

end Characters

/-! ### The grammar -/

/-- The first segment of a token is a written form. -/
theorem isWrittenForm_of_looksLikeToken {segment rest : List Char} (hdot : '.' ∉ segment)
    (h : looksLikeToken (segment ++ '.' :: rest)) : IsWrittenForm segment := by
  obtain ⟨header, payload, signature, -, -, -, heq⟩ := looksLikeToken_iff.1 h
  have hpieces := congrArg (Text.pieces '.') heq
  rw [Text.pieces_append_cons hdot,
    Text.pieces_append_cons (Text.Base64Url.dot_notMem_encode header)] at hpieces
  rw [(List.cons.inj hpieces).1]
  exact Text.Base64Url.isWrittenForm_encode header

/-- Three segments are a token if the first one is the written form of an object, told by its
letters, and the other two are words. -/
theorem looksLikeToken_triple_iff {segment payload signature : List Char} :
    looksLikeToken (segment ++ '.' :: (payload ++ '.' :: signature)) ↔
      IsWrittenForm segment ∧
        (∀ header, segment = encode header → Json.IsObjectText header) ∧
          IsWord payload ∧ IsWord signature := by
  rw [looksLikeToken_iff]
  constructor
  · rintro ⟨header, payload', signature', hheader, hpayload, hsignature, heq⟩
    have hdots := (isWord_encode hheader.ne_nil).dot_notMem
    -- a token has two dots, so there is one way to cut it at them
    have hcount := congrArg (List.count '.') heq
    simp only [List.count_append, List.count_cons_self, List.count_eq_zero.2 hdots,
      List.count_eq_zero.2 hpayload.dot_notMem, List.count_eq_zero.2 hsignature.dot_notMem]
      at hcount
    have hpieces := congrArg (Text.pieces '.') heq
    rw [pieces_eq_triple hdots hpayload.dot_notMem hsignature.dot_notMem,
      pieces_eq_triple (List.count_eq_zero.1 (by omega)) (List.count_eq_zero.1 (by omega))
        (List.count_eq_zero.1 (by omega))] at hpieces
    simp only [List.cons.injEq, and_true] at hpieces
    obtain ⟨rfl, rfl, rfl⟩ := hpieces
    refine ⟨Text.Base64Url.isWrittenForm_iff.2 ⟨header, rfl⟩, fun other hother ↦ ?_, hpayload,
      hsignature⟩
    rwa [← Text.Base64Url.encode_injective hother]
  · rintro ⟨hwritten, hobject, hpayload, hsignature⟩
    obtain ⟨header, rfl⟩ := Text.Base64Url.isWrittenForm_iff.1 hwritten
    exact ⟨header, payload, signature, hobject header rfl, hpayload, hsignature, rfl⟩

/-- **A token is told by its grammar**, for every text. No first segment is accepted that is padded,
holds a foreign character, has a lone letter in its last group or unused bits that are not zero; and
every other one is, if it is the written form of an object and words follow it. -/
theorem looksLikeToken_grammar :
    (∀ v : String, looksLikeToken v.toList ↔ ∃ header payload signature,
      Json.IsObjectText header ∧ IsWord payload ∧ IsWord signature ∧
        v.toList = encode header ++ '.' :: (payload ++ '.' :: signature)) ∧
    (∀ segment rest, '.' ∉ segment → looksLikeToken (segment ++ '.' :: rest) →
      IsWrittenForm segment ∧ '=' ∉ segment) ∧
    ∀ segment payload signature,
      looksLikeToken (segment ++ '.' :: (payload ++ '.' :: signature)) ↔
        IsWrittenForm segment ∧
          (∀ header, segment = encode header → Json.IsObjectText header) ∧
            IsWord payload ∧ IsWord signature := by
  refine ⟨fun v ↦ looksLikeToken_iff, fun segment rest hdot h ↦ ?_,
    fun _ _ _ ↦ looksLikeToken_triple_iff⟩
  have hwritten := isWrittenForm_of_looksLikeToken hdot h
  have hpadding : '=' ∉ alphabet := Text.Base64Url.notMem_alphabet (by decide)
  exact ⟨hwritten, fun h ↦ hpadding (hwritten.letters '=' h)⟩

end Lookup

end AccountDirectory
