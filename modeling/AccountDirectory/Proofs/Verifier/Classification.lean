import AccountDirectory.Proofs.Lookup.TokenShape
import AccountDirectory.Proofs.Service.Sessions
import AccountDirectory.Proofs.Token.Header
import AccountDirectory.Proofs.Verifier.Acceptance
import AccountDirectory.Proofs.Verifier.Looks

/-!
# Accepted tokens are taken for tokens

A caller's identifier is classified by a look at its shape, before anything is verified; a token is
verified by readers that know nothing of that shape. `classify_of_accepted` says that the two never
disagree on what counts: a token that some run of the verifier accepts, with blanks around it and
after any casing of the word `Bearer`, is taken for that token. So it is not taken for a subject, it
is not searched for as a username, and a lookup shows it to nobody but the verifier
(`Service.AsksVerifierOnly`).

**Where the two could differ.** The shape asks for three segments in the alphabet, none of them
empty, and a free-form object as the first.

* The verifier reads each segment strictly, so it is the written form of octets.
* The first two are read as documents and no document is empty; an empty signature is refused
  because a usable modulus fills at least one octet (`ne_nil_of_verifies`).
* A header is an object (`Token.Header.exists_object_of_ofDocument?`). It is never read from a list,
  although records are.
-/

namespace AccountDirectory

open Program (Conducts)
open Text.Base64Url (encode)

/-- A valid signature has at least one octet. -/
theorem Signature.Rsa.ne_nil_of_verifies {key : PublicKey} {message signature : List UInt8}
    (h : verifies key message signature) : signature ≠ [] := by
  simp only [verifies, Bool.and_eq_true, beq_iff_eq] at h
  obtain ⟨⟨⟨husable, hlength⟩, -⟩, -⟩ := h
  have hodd : key.modulus ≠ 0 := by
    intro hzero
    rw [PublicKey.isUsable, hzero] at husable
    cases husable
  rintro rfl
  rw [size, if_neg hodd] at hlength
  exact Nat.succ_ne_zero _ hlength.symm

/-! ### What an accepted token is made of -/

/-- **The token is compact**: three written forms with dots between them, the first one that of a
header, and none of them empty. -/
structure Token.IsCompact (cs : List Char) (heading payload signature : List UInt8) : Prop where
  spelled : cs = encode heading ++ '.' :: (encode payload ++ '.' :: encode signature)
  headed : ∃ header, (Json.Document.ofOctets? heading).bind Token.Header.ofDocument? = some header
  payload_ne_nil : payload ≠ []
  signature_ne_nil : signature ≠ []

/-- **An accepted token is compact**, whoever replied to the verifier. -/
theorem Verifier.isCompact_of_conducts_verify {v : Verifier} {token scope : String}
    {d : List Procedure.Exchange} {claims : Claims}
    (h : Conducts (v.verify token scope).run d (.finished (.ok claims))) :
    ∃ heading payload signature, Token.IsCompact token.toList heading payload signature := by
  obtain ⟨⟨s, header⟩, hread, h₁⟩ := Program.conducts_check_bind_ok_iff.1 h
  dsimp only at h₁
  split at h₁
  · obtain ⟨_, _, _, -, hthrow, -⟩ := Program.conducts_bindT_ok_iff.1 h₁
    cases (Program.conducts_done_iff.1 hthrow).2
  obtain ⟨key, -, d₂, -, -, h₂⟩ := Program.conducts_bindT_ok_iff.1 h₁
  obtain ⟨⟨⟩, hsigned, h₃⟩ := Program.conducts_check_bind_ok_iff.1 h₂
  obtain ⟨⟨owner, validity⟩, hclaims, -⟩ := Program.conducts_check_bind_ok_iff.1 h₃
  -- each of the three checks has read one segment
  obtain ⟨hcut, heading, hheading, hheaded⟩ := readHeader_eq_ok_iff.1 hread
  obtain ⟨rsa, signature, -, hsignature, hverifies⟩ := checkSignature_eq_ok_iff.1 hsigned
  obtain ⟨payload, document, hpayload, hdocument, -, -⟩ := readClaims_eq_ok_iff.1 hclaims
  obtain ⟨hspelled, -, -⟩ := Token.Segments.ofChars?_eq_some_iff.1 hcut
  rw [hheading, hpayload, hsignature] at hspelled
  refine ⟨heading, payload, signature, hspelled, ⟨header, hheaded⟩, ?_,
    Signature.Rsa.ne_nil_of_verifies hverifies⟩
  rintro rfl
  cases hdocument

/-! ### What it is taken for -/

namespace Lookup

variable {cs : List Char} {heading payload signature : List UInt8}

/-- **A compact token has the shape of a token.** -/
theorem looksLikeToken_of_isCompact (h : Token.IsCompact cs heading payload signature) :
    looksLikeToken cs := by
  obtain ⟨header, hheader⟩ := h.headed
  obtain ⟨d, hd, hread⟩ := Option.bind_eq_some_iff.1 hheader
  obtain ⟨members, hmembers⟩ := Token.Header.exists_object_of_ofDocument? hread
  have hobject : isJsonObject heading := by
    rw [isJsonObject, hd, Option.bind_some, hmembers]
    rfl
  exact looksLikeToken_iff.2 ⟨heading, encode payload, encode signature,
    isJsonObject_iff.1 hobject, isWord_encode h.payload_ne_nil, isWord_encode h.signature_ne_nil,
    h.spelled⟩

/-! ### What may stand around it -/

/-- Blanks, or nothing. -/
def AreBlanks (cs : List Char) : Prop := ∀ c ∈ cs, Text.isBlank c

/-- **A casing of the word `Bearer`** and the blank after it. -/
def IsBearerWord (word : List Char) : Prop :=
  List.Forall₂ (fun c x ↦ c = x ∨ c = Char.toUpper x) word bearerWord

/-- **The identifier wraps a token**: in blanks, and with the word `Bearer` and more blanks before
it if the caller likes. -/
inductive Wraps (token : List Char) : List Char → Prop
  | bare {front back : List Char} (hfront : AreBlanks front) (hback : AreBlanks back) :
    Wraps token (front ++ (token ++ back))
  | bearer {front word gap back : List Char} (hfront : AreBlanks front) (hword : IsBearerWord word)
    (hgap : AreBlanks gap) (hback : AreBlanks back) :
    Wraps token (front ++ ((word ++ (gap ++ token)) ++ back))

theorem bearerWord_eq : bearerWord = ['b', 'e', 'a', 'r', 'e', 'r', ' '] := by decide +kernel

theorem IsBearerWord.length_eq {word : List Char} (h : IsBearerWord word) :
    word.length = bearerWord.length :=
  List.Forall₂.length_eq h

/-- Whatever the casing, the small letters are those of the word. -/
theorem IsBearerWord.asciiLower_eq {word : List Char} (h : IsBearerWord word) :
    Text.asciiLower word = bearerWord := by
  have hall : bearerWord.Forall fun x ↦ x.toLower = x ∧ x.toUpper.toLower = x := by
    rw [bearerWord_eq]
    decide
  unfold IsBearerWord at h
  generalize bearerWord = spelling at h hall
  induction h with
  | nil => rfl
  | cons hc _ ih =>
    obtain ⟨⟨hsmall, hcapital⟩, hrest⟩ := (List.forall_cons _ _ _).1 hall
    rw [Text.asciiLower, List.map_cons, ← Text.asciiLower, ih hrest]
    obtain rfl | rfl := hc
    · rw [hsmall]
    · rw [hcapital]

/-- The word begins with a letter. -/
theorem IsBearerWord.head? {word : List Char} (h : IsBearerWord word) :
    ∀ c ∈ word.head?, ¬Text.isBlank c := by
  unfold IsBearerWord at h
  rw [bearerWord_eq] at h
  obtain ⟨c, rest, hc, -, rfl⟩ := List.forall₂_cons_right_iff.1 h
  intro c' hc'
  obtain rfl := Option.some.inj hc'
  obtain rfl | rfl := hc <;> decide

/-- **A token is cut off nothing.** -/
theorem stripBearer_of_token (h : looksLikeToken cs) : stripBearer cs = cs := by
  refine if_neg fun hword ↦ ?_
  -- the word ends with a space, and no character of the token becomes one
  have hspace : ' ' ∈ Text.asciiLower (cs.take bearerWord.length) := by
    rw [hword, bearerWord_eq]
    decide
  obtain ⟨c, hc, hlower⟩ := List.mem_map.1 hspace
  obtain rfl := Text.eq_of_toLower_eq hlower (by decide)
  exact not_isBlank_of_mem_token h (List.mem_of_mem_take hc) (by decide)

/-- The word and the blanks after it are dropped. -/
theorem stripBearer_append {word gap : List Char} (hword : IsBearerWord word)
    (hgap : AreBlanks gap) (h : ∀ c ∈ cs.head?, ¬Text.isBlank c) :
    stripBearer (word ++ (gap ++ cs)) = cs := by
  rw [stripBearer, List.take_left' hword.length_eq, List.drop_left' hword.length_eq,
    if_pos hword.asciiLower_eq, Text.trimStart_append hgap]
  cases cs with
  | nil => rfl
  | cons c rest => exact List.dropWhile_cons_of_neg (h c rfl)

/-- **An identifier that wraps a token spells it.** -/
theorem spells_of_wraps {token input : String} (h : looksLikeToken token.toList)
    (hwraps : Wraps token.toList input.toList) : Spells input token := by
  refine ⟨?_, h⟩
  have hfirst : ∀ c ∈ token.toList.head?, ¬Text.isBlank c :=
    fun c hc ↦ not_isBlank_of_mem_token h (List.mem_of_mem_head? hc)
  have hlast : ∀ c ∈ token.toList.getLast?, ¬Text.isBlank c :=
    fun c hc ↦ not_isBlank_of_mem_token h (List.mem_of_mem_getLast? hc)
  generalize input.toList = cs at hwraps
  cases hwraps with
  | bare hfront hback =>
    rw [Text.trimBoth_append_append hfront hback, trimBoth_of_token h, stripBearer_of_token h]
  | @bearer front word gap back hfront hword hgap hback =>
    have hwordFirst : ∀ c ∈ (word ++ (gap ++ token.toList)).head?, ¬Text.isBlank c := by
      intro c hc
      rw [List.head?_append_of_ne_nil _ fun hnil ↦ nomatch hnil ▸ hword.length_eq] at hc
      exact hword.head? c hc
    have hgapLast : ∀ c ∈ (word ++ (gap ++ token.toList)).getLast?, ¬Text.isBlank c := by
      rw [← List.append_assoc, List.getLast?_append_of_ne_nil _ (ne_nil_of_looksLikeToken h)]
      exact hlast
    rw [Text.trimBoth_append_append hfront hback, Text.trimBoth_eq_self hwordFirst hgapLast,
      stripBearer_append hword hgap hfirst]

/-- **An identifier that wraps a compact token spells it.** -/
theorem spells_of_isCompact {token input : String}
    (h : Token.IsCompact token.toList heading payload signature)
    (hwraps : Wraps token.toList input.toList) : Spells input token :=
  spells_of_wraps (looksLikeToken_of_isCompact h) hwraps

end Lookup

/-! ### The law -/

/-- **An accepted token is taken for that token**, with blanks around it and after the word `Bearer`
in any casing. A lookup of it asks the verifier about it and nobody else. -/
theorem Lookup.classify_of_accepted {v : Verifier} {token scope input : String}
    {d : List Procedure.Exchange} {claims : Claims}
    (h : Conducts (v.verify token scope).run d (.finished (.ok claims)))
    (hwraps : Wraps token.toList input.toList) :
    classify input = some (.token token) ∧
      ∀ (service : Service) (D : List Service.Exchange) (E : Service.Ending),
        Conducts (service.program (.lookup input)) D E →
          ∃ r, D = [⟨.verify token readScope, r⟩] := by
  obtain ⟨heading, payload, signature, hcompact⟩ := Verifier.isCompact_of_conducts_verify h
  have hspells : Spells input token := spells_of_isCompact hcompact hwraps
  refine ⟨classify_eq_token_iff.2 hspells, fun service D E hlookup ↦ ?_⟩
  exact (Service.lookupRun_of_conducts hlookup).asksVerifierOnly.once token hspells

namespace Sample

/-- The verifier accepts the sample in its world. -/
theorem conducts_verify_token :
    Conducts ((verifier none).verify token "read").run
      (((verifier none).verify token "read").run.dialogue World.respond world)
      (.finished (.ok ⟨"ann", ["read", "write"]⟩)) := by
  obtain ⟨e, he, howner, -⟩ := exists_supports none
  have hclaims : (⟨"ann", ["read", "write"]⟩ : Claims) = Verifier.claimsOf e.owner :=
    Verifier.eq_claimsOf_iff.2 (howner.symm ▸ ⟨rfl, isFirstMentions_grants⟩)
  have hyields := Verifier.yields_verify_iff_supports.2
    ⟨e, he, Verifier.admitsAudience_of_none rfl _, hclaims, rfl⟩
  exact hyields.1 ▸ Program.conducts_run World.respond _ world

/-- The word in a casing that nobody uses. -/
def oddWord : List Char := ['b', 'E', 'A', 'R', 'E', 'R', ' ']

/-- The sample as a caller may hand it over. -/
def wrapped : String := String.ofList ([' '] ++ ((oddWord ++ (['\t'] ++ token.toList)) ++ ['\n']))

theorem wraps_wrapped : Lookup.Wraps token.toList wrapped.toList := by
  have hword : Lookup.IsBearerWord oddWord := by
    unfold Lookup.IsBearerWord
    rw [Lookup.bearerWord_eq]
    decide +kernel
  rw [wrapped, String.toList_ofList]
  have hspace : Lookup.AreBlanks [' '] := List.forall_mem_singleton.2 rfl
  have htab : Lookup.AreBlanks ['\t'] := List.forall_mem_singleton.2 rfl
  have hnewline : Lookup.AreBlanks ['\n'] := List.forall_mem_singleton.2 rfl
  exact .bearer hspace hword htab hnewline

/-- So the sample is taken for itself when it is wrapped. -/
theorem classify_wrapped :
    Conducts ((verifier none).verify token "read").run
        (((verifier none).verify token "read").run.dialogue World.respond world)
        (.finished (.ok ⟨"ann", ["read", "write"]⟩)) ∧
      Lookup.Wraps token.toList wrapped.toList ∧
      Lookup.classify wrapped = some (.token token) ∧
      ∀ (service : Service) (D : List Service.Exchange) (E : Service.Ending),
        Conducts (service.program (.lookup wrapped)) D E →
          ∃ r, D = [⟨.verify token readScope, r⟩] :=
  ⟨conducts_verify_token, wraps_wrapped,
    Lookup.classify_of_accepted conducts_verify_token wraps_wrapped⟩

end Sample

end AccountDirectory
