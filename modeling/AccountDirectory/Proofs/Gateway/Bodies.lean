import AccountDirectory.Proofs.Gateway.Metadata
import AccountDirectory.Proofs.Gateway.UserAddress
import AccountDirectory.Proofs.Json.Shapes

/-!
# What the body of an answer is taken for

A successful answer says that there is nothing (`SaysNothing`), or has the shape that the request
asks for, or is unreadable. `TakesByShape` says so of the three requests to the directory, and leaves
open which documents count as a record.

**A record need not be an object.** `takesByShape` proves the law where a record is whatever spells
one, which a list of its fields does as well as an object. Where only objects are records the law
fails (`not_takesByShape_object`): the answer `[]` to a request for an account is an account without
any id.
-/

namespace AccountDirectory

open Json (Document Reader Record)
open Json.Document (ofFields)
open Program (Conducts)

/-! ### Readers that keep to a shape -/

namespace Json.Reader

variable {α : Type} {read : Reader α} {shape : Document → Prop}

/-- **Only documents of a shape are read.** -/
def ReadsOnly (read : Reader α) (shape : Document → Prop) : Prop :=
  ∀ ⦃budget d x⦄, read budget d = some x → shape d

theorem ReadsOnly.list (h : read.ReadsOnly shape) :
    read.list.ReadsOnly fun d ↦ ∃ items, d = .list items ∧ ∀ item ∈ items, shape item := by
  intro budget d xs hd
  cases d with
  | list items =>
    rw [Reader.list] at hd
    split at hd
    · cases hd
    · refine ⟨items, rfl, fun item hitem ↦ ?_⟩
      obtain ⟨x, hx⟩ := Option.isSome_iff_exists.1 ((exists_of_mapM hd).1 item hitem)
      exact h hx
  | _ => cases hd

/-- A record is spelled by what it is read from. -/
theorem readsOnly_record {names : List String} {rest : Record → Option α} :
    ReadsOnly (fun budget d ↦ Record.ofDocument? names budget d >>= rest)
      (Record.IsSpelled names) := by
  intro budget d x hd
  obtain ⟨r, hr, -⟩ := Option.bind_eq_some_iff.1 hd
  exact Record.isSpelled_of_ofDocument? hr

end Json.Reader

namespace Gateway

variable {α β : Type} {read : Reader α} {shape : Document → Prop} {body : String}

/-! ### Bodies -/

/-- The body says that there is nothing. -/
def SaysNothing (body : String) : Prop :=
  Text.isBlankText body ∨ Document.ofText? body = some .null

/-- A body with a document says nothing only by `null`. -/
theorem saysNothing_iff_of_ofText? {d : Document} (h : Document.ofText? body = some d) :
    SaysNothing body ↔ d = .null := by
  rw [SaysNothing, or_iff_right (Document.not_isBlankText_of_ofText? h), h, Option.some.injEq]

/-- **The body is taken by its shape**: for nothing if it says nothing, and for something only if
its document has the shape. Otherwise it is unreadable. -/
structure Takes (shape : Document → Prop) (nothing : β) (body : String)
    (result : Except GatewayError β) : Prop where
  nothing : SaysNothing body → result = .ok nothing
  shaped : ∀ x, result = .ok x → SaysNothing body ∨ ∃ d, Document.ofText? body = some d ∧ shape d
  refused : ∀ failure, result = .error failure → failure = .decode unreadable

/-- **A body says nothing if and only if nothing is read from it.** -/
theorem decodeBody_eq_ok_none_iff :
    decodeBody read body = .ok none ↔ SaysNothing body := by
  by_cases hblank : Text.isBlankText body
  · simp [decodeBody, SaysNothing, hblank]
  cases hd : Document.ofText? body with
  | none => simp [decodeBody, SaysNothing, hblank, hd]
  | some d =>
    rw [decodeBody_of_ofText? hd, saysNothing_iff_of_ofText? hd]
    by_cases hnull : d = .null
    · simp [hnull, Reader.nullable]
    · rw [Record.nullable_of_ne_null hnull]
      cases read Json.nestingLimit d <;> simp [hnull]

/-- **Bodies are taken by the shape that their reader keeps to.** -/
theorem takes_decodeBody (h : read.ReadsOnly shape) (finish : Option α → β) (body : String) :
    Takes shape (finish none) body (finish <$> decodeBody read body) := by
  refine ⟨fun hnothing ↦ ?_, fun x hx ↦ ?_, fun failure hfailure ↦ ?_⟩
  · rw [decodeBody_eq_ok_none_iff.2 hnothing]
    rfl
  · obtain ⟨found, hread, -⟩ := exists_of_map_decodeBody hx
    cases found with
    | none => exact .inl (decodeBody_eq_ok_none_iff.1 hread)
    | some y =>
      obtain ⟨d, hd, hy⟩ := exists_of_decodeBody hread
      exact .inr ⟨d, hd, h hy⟩
  · cases hread : decodeBody read body with
    | error reason =>
      rw [hread] at hfailure
      obtain rfl := Except.error.inj hfailure
      exact eq_decode_of_decodeBody hread
    | ok found =>
      rw [hread] at hfailure
      cases hfailure

theorem readsOnly_account :
    Reader.ReadsOnly Account.ofDocument? (Record.IsSpelled Account.fieldNames) :=
  Reader.readsOnly_record

theorem readsOnly_storedMetadata :
    Reader.ReadsOnly storedMetadata (Record.IsSpelled ["user_metadata"]) :=
  Reader.readsOnly_record

/-! ### Answers -/

/-- **A successful answer decides** how the step ends: with a result that is related to its body. -/
def Concludes (p : Step β) (related : String → Except GatewayError β → Prop) : Prop :=
  ∀ d e request (response : Http.Response), Conducts p.run d e →
    ⟨.exchange request, .answer (.ok response)⟩ ∈ d → Http.isSuccess response.status →
      ∃ result, e = .finished result ∧ related response.text result

/-- The body of a successful answer is what the request gives. -/
theorem SendRun.eq_of_success {method : Http.Method} {address token : String}
    {body : Option Json.Value} {d : List Procedure.Exchange}
    {e : Program.Ending (Except GatewayError String)} (h : SendRun method address token body d e)
    {request : Http.Request} {response : Http.Response}
    (hx : ⟨.exchange request, .answer (.ok response)⟩ ∈ d) (hs : Http.isSuccess response.status) :
    e = .finished (.ok response.text) := by
  cases h with
  | unbuilt => cases hx
  | unanswered _ hr =>
    obtain ⟨-, rfl⟩ := Program.Exchange.mk.inj (List.mem_singleton.1 hx)
    cases hr
  | failed => cases List.mem_singleton.1 hx
  | refused _ hrefused =>
    cases List.mem_singleton.1 hx
    exact absurd hs hrefused
  | accepted =>
    cases List.mem_singleton.1 hx
    rfl

/-- **What the answers of the directory are taken for**, if these documents are the records with
given fields: the answer about a user is a record, or nothing exactly if it says so; that to a search
is a list of records, or empty; and that to a change is a record. -/
structure TakesByShape (g : Gateway) (isRecord : List String → Document → Prop) : Prop where
  getUser : ∀ token userId, Concludes (g.getUser token userId) fun body result ↦
    Takes (isRecord Account.fieldNames) none body result ∧
      (result = .ok none ↔ SaysNothing body)
  searchUsers : ∀ token criteria term, Concludes (g.searchUsers token criteria term)
    (Takes (fun d ↦ ∃ items, d = .list items ∧ ∀ item ∈ items, isRecord Account.fieldNames item) [])
  patchMetadata : ∀ token userId metadata, Concludes (g.patchMetadata token userId metadata)
    (Takes (isRecord ["user_metadata"]) none)

theorem takesByShape_isSpelled (g : Gateway) : g.TakesByShape Record.IsSpelled where
  getUser token userId := by
    intro d e request response h hx hs
    obtain ⟨es, hrun, rfl⟩ := sendRun_of_getUser h
    obtain rfl := hrun.eq_of_success hx hs
    have htakes := takes_decodeBody readsOnly_account id response.text
    rw [id_map] at htakes
    exact ⟨_, rfl, htakes, decodeBody_eq_ok_none_iff⟩
  searchUsers token criteria term := by
    intro d e request response h hx hs
    obtain ⟨es, hrun, rfl⟩ := sendRun_of_searchUsers h
    obtain rfl := hrun.eq_of_success hx hs
    exact ⟨_, rfl, takes_decodeBody readsOnly_account.list (·.getD []) response.text⟩
  patchMetadata token userId metadata := by
    intro d e request response h hx hs
    obtain ⟨es, hrun, rfl⟩ := sendRun_of_patchMetadata h
    obtain rfl := hrun.eq_of_success hx hs
    exact ⟨_, rfl, takes_decodeBody readsOnly_storedMetadata Option.join response.text⟩

/-- **Successful answers are taken by their shape.** A record may be a list: it is read as the
object that has its items under the names of the fields. -/
theorem takesByShape (g : Gateway) :
    g.TakesByShape Record.IsSpelled ∧
      (∀ budget items, items.length ≤ Account.fieldNames.length →
        Account.ofDocument? budget (.list items) =
          Account.ofDocument? budget (ofFields (Account.fieldNames.zip items))) ∧
      ∀ budget items, items.length ≤ 1 →
        storedMetadata budget (.list items) =
          storedMetadata budget (ofFields (["user_metadata"].zip items)) := by
  refine ⟨takesByShape_isSpelled g, fun budget items h ↦ ?_, fun budget items h ↦ ?_⟩
  · exact congrArg (· >>= _) (Record.ofDocument?_list (by decide) h)
  · exact congrArg (· >>= _) (Record.ofDocument?_list (by decide) h)

/-! ### An object for a list, and a list for an object -/

namespace Sample

/-- A successful answer with this text. -/
def answering (text : String) : Http.Response := ⟨200, Text.Utf8.encode text.toList⟩

theorem text_answering (text : String) : (answering text).text = text := by
  rw [answering, Http.Response.text, Text.Utf8.decodeLossy_encode, String.ofList_toList]

/-- A request for an address that has no user, and that requests can be sent to. -/
theorem exists_build {address : String}
    (h : (Http.Url.parse? address).any fun url ↦
      (url.authority.bind (·.user)).isNone && url.isReachable) :
    ∃ request, Http.Request.build .get address (some "t") none = .ok request := by
  obtain ⟨url, hurl, hplain⟩ := (Option.any_eq_true _ _).1 h
  obtain ⟨huser, hreach⟩ := Bool.and_eq_true_iff.1 hplain
  have htoken : "t".toList.all Http.isHeaderChar := by decide
  obtain ⟨request, hbuild, -⟩ :=
    Http.Request.exists_build hurl (Option.isNone_iff_eq_none.1 huser) hreach htoken
  exact ⟨request, hbuild⟩

end Sample

/-- A search that is answered with one account, and not with a list of it, fails. -/
theorem searchUsers_object :
    ∃ request, Conducts (Sample.gateway.searchUsers "t" .email "ann@test").run
      [⟨.exchange request, .answer (.ok (Sample.answering "\x7b\"user_id\":\"u\"\x7d"))⟩]
      (.finished (.error (.decode unreadable))) := by
  have hreach : (Http.Url.parse? (Sample.gateway.searchAddress .email "ann@test")).any fun url ↦
      (url.authority.bind (·.user)).isNone && url.isReachable := by decide +kernel
  obtain ⟨request, hbuild⟩ := Sample.exists_build hreach
  have hconducts : Conducts (Sample.gateway.searchUsers "t" .email "ann@test").run
      [⟨.exchange request, .answer (.ok (Sample.answering "\x7b\"user_id\":\"u\"\x7d"))⟩] _ :=
    conducts_searchUsers hbuild rfl
  obtain ⟨result, hresult, htaken⟩ := (takesByShape Sample.gateway).1.searchUsers "t" .email
    "ann@test" _ _ _ _ hconducts (List.mem_singleton_self _) rfl
  rw [Sample.text_answering] at htaken
  have hobject : Document.ofText? "\x7b\"user_id\":\"u\"\x7d" =
      some (ofFields [("user_id", .ofName "u")]) :=
    Json.Value.ofText?_compact (v := .object [("user_id", .text "u")]) rfl
  refine ⟨request, ?_⟩
  rw [hresult] at hconducts
  cases result with
  | error failure =>
    obtain rfl := htaken.refused failure rfl
    exact hconducts
  | ok found =>
    obtain hnothing | ⟨d, hd, items, hitems, -⟩ := htaken.shaped found rfl
    · cases (saysNothing_iff_of_ofText? hobject).1 hnothing
    · cases (Option.some.inj (hobject.symm.trans hd)).trans hitems

/-- **Not every record is an object**: an empty list is an account. -/
theorem not_takesByShape_object :
    ¬∀ g : Gateway, g.TakesByShape fun _ ↦ Document.IsObject := by
  intro htakes
  have hreach : (Http.Url.parse? (Sample.gateway.userAddress "u")).any fun url ↦
      (url.authority.bind (·.user)).isNone && url.isReachable := by decide +kernel
  obtain ⟨request, hbuild⟩ := Sample.exists_build hreach
  have hconducts : Conducts (Sample.gateway.getUser "t" "u").run
      [⟨.exchange request, .answer (.ok (Sample.answering "[]"))⟩] _ := conducts_getUser hbuild rfl
  obtain ⟨result, hresult, htaken, -⟩ :=
    (htakes Sample.gateway).getUser "t" "u" _ _ _ _ hconducts (List.mem_singleton_self _) rfl
  have hlist : Document.ofText? "[]" = some (.list []) :=
    Json.Value.ofText?_compact (v := .list []) rfl
  rw [Sample.text_answering, decodeBody_of_ofText? hlist] at hresult
  rw [Sample.text_answering] at htaken
  have haccount : result = .ok (some {}) := (Program.Ending.finished.inj hresult).symm
  obtain hnothing | ⟨d, hd, members, hmembers⟩ := htaken.shaped _ haccount
  · cases (saysNothing_iff_of_ofText? hlist).1 hnothing
  · cases (Option.some.inj (hlist.symm.trans hd)).trans hmembers

end Gateway

end AccountDirectory
