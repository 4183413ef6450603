import AccountDirectory.Proofs.Account
import AccountDirectory.Proofs.Requests
import AccountDirectory.Proofs.Service.Sessions
import AccountDirectory.Proofs.User

/-!
# Where the metadata of a user comes from

A call that returns a user with metadata has it from an answer of the directory (`Service.Reports`):
the account that was fetched, one of the accounts that were found, or what a change was answered with.
The metadata that a caller hands in is sent, and not returned.

So the limit of the reader of answers is a limit on what is returned. The directory's answers are
read with a limit on nesting, and the metadata in them is at least one container further down. Hence
a user that any call of any instance returns can be written and read again (`Instance.fits_of_ok`).
-/

namespace AccountDirectory

open Program (Conducts Enacts)

/-! ### Answers that report metadata -/

namespace Service

/-- **The exchange reports the metadata**: it is an answer of the directory with it. -/
inductive Reports : Exchange → Metadata → Prop
  | fetched {token userId} {account : Account} {m} (hm : account.metadata = some m) :
    Reports ⟨.get token userId, .answer (.ok (some account))⟩ m
  | found {token criteria term accounts} {account : Account} {m} (ha : account ∈ accounts)
    (hm : account.metadata = some m) :
    Reports ⟨.search token criteria term, .answer (.ok accounts)⟩ m
  | stored {token userId metadata m} :
    Reports ⟨.patch token userId metadata, .answer (.ok (some m))⟩ m

/-- A read by id returns the account that was fetched. -/
theorem GetRun.exists_reports {service : Service} {user found : User} {d : List Exchange}
    {e : Ending} {m : Metadata} (h : GetRun service user d e) (he : e = .finished (.ok found))
    (hm : found.metadata = some m) : ∃ x ∈ d, Reports x m := by
  cases h with
  | noBearer _ hr | unanswered _ hr =>
    subst he
    cases hr
  | found =>
    obtain rfl := Except.ok.inj (Program.Ending.finished.inj he)
    exact ⟨_, List.mem_append_right _ (List.mem_singleton_self _), .fetched hm⟩
  | _ => cases he

/-- A lookup returns no metadata. -/
theorem LookupRun.metadata_eq_none {input : String} {user : User} {d : List Exchange} {e : Ending}
    (h : LookupRun input d e) (he : e = .finished (.ok user)) : user.metadata = none := by
  cases h with
  | unverified _ hr =>
    subst he
    cases hr
  | verified | subject | username =>
    obtain rfl := Except.ok.inj (Program.Ending.finished.inj he)
    rfl
  | _ => cases he

/-- **The metadata of a user that a call returns was reported** in the course of the call. -/
theorem exists_reports {service : Service} {call : Call} {d : List Exchange} {user : User}
    {m : Metadata} (h : Conducts (service.program call) d (.finished (.ok user)))
    (hm : user.metadata = some m) : ∃ x ∈ d, Reports x m := by
  cases call with
  | getUser record => exact (getRun_of_conducts h).exists_reports rfl hm
  | searchUser record criteria =>
    obtain ⟨token, _, accounts, hx, account, ha, -, hfound⟩ :=
      (searchRun_of_conducts h).confirmed.owned user rfl
    rw [hfound] at hm
    exact ⟨_, hx, .found ha hm⟩
  | lookup input => cases ((lookupRun_of_conducts h).metadata_eq_none rfl).symm.trans hm
  | updateUser record =>
    obtain ⟨token, target, metadata, stored, hx, rfl⟩ :=
      (updateRun_of_conducts h).gated.success user rfl
    obtain rfl := hm
    exact ⟨_, hx, .stored⟩

end Service

/-! ### Answers that were read -/

namespace Gateway

variable {g : Gateway} {token userId : String} {d : List Procedure.Exchange}

/-- A result of a request was read from a body. -/
theorem exists_decoded {α β : Type} {read : Json.Reader α} {finish : Option α → β} {x : β}
    {es : Program.Ending (Except GatewayError String)}
    (h : .finished (.ok x) = es.map fun body ↦ finish <$> (body >>= decodeBody read)) :
    ∃ text found, decodeBody read text = .ok found ∧ finish found = x := by
  cases es with
  | interrupted | stalled => cases h
  | finished body =>
    have hresult := Program.Ending.finished.inj h
    cases body with
    | error failure => cases hresult
    | ok text => exact ⟨text, exists_of_map_decodeBody hresult.symm⟩

/-- An account that was fetched fits the reader of answers. -/
theorem fits_of_getUser {account : Account}
    (h : Conducts (g.getUser token userId).run d (.finished (.ok (some account)))) :
    account.Fits Json.nestingLimit := by
  obtain ⟨es, -, he⟩ := sendRun_of_getUser h
  have hdecoded : .finished (.ok (some account)) =
      es.map fun body ↦ id <$> (body >>= decodeBody Account.ofDocument?) := by simpa using he
  obtain ⟨text, _, hread, rfl⟩ := exists_decoded hdecoded
  obtain ⟨document, -, hdocument⟩ := exists_of_decodeBody hread
  exact Account.fits_of_ofDocument? hdocument

/-- The accounts that were found stand in a list, and fit it. -/
theorem fits_of_searchUsers {criteria : Criteria} {term : String} {accounts : List Account}
    (h : Conducts (g.searchUsers token criteria term).run d (.finished (.ok accounts)))
    {account : Account} (ha : account ∈ accounts) : account.Fits (Json.nestingLimit - 1) := by
  obtain ⟨es, -, he⟩ := sendRun_of_searchUsers h
  obtain ⟨text, found, hread, rfl⟩ := exists_decoded he
  cases found with
  | none => cases ha
  | some accounts =>
    obtain ⟨document, -, hdocument⟩ := exists_of_decodeBody hread
    obtain ⟨item, hitem⟩ := Json.Reader.exists_of_list hdocument account ha
    exact Account.fits_of_ofDocument? hitem

/-- The metadata that a change was answered with is one container down. -/
theorem depth_of_patchMetadata {sent m : Metadata}
    (h : Conducts (g.patchMetadata token userId sent).run d (.finished (.ok (some m)))) :
    m.toJson.toDocument.depth ≤ Json.nestingLimit - 1 := by
  obtain ⟨es, -, he⟩ := sendRun_of_patchMetadata h
  obtain ⟨text, found, hread, hjoin⟩ := exists_decoded he
  obtain rfl := Option.join_eq_some_iff.1 hjoin
  obtain ⟨document, -, hdocument⟩ := exists_of_decodeBody hread
  obtain ⟨r, hr, hstored⟩ := Option.bind_eq_some_iff.1 hdocument
  obtain ⟨_, -, hm⟩ := Json.Record.exists_of_optional hstored m rfl
  rw [(Json.Record.budget_of_ofDocument? hr).2] at hm
  exact Json.Value.depth_toDocument_le (Metadata.ofDocument?_eq_some_iff.1 hm)

end Gateway

/-! ### Users that were returned -/

namespace Instance

variable {i : Instance}

/-- **What the directory reports can be read again**, one container down. -/
theorem depth_of_reports {x : Service.Exchange} {m : Metadata} {D : List Service.Exchange}
    {d : List Procedure.Exchange} (h : Service.Reports x m) (hd : Enacts i.adapter D d)
    (hx : x ∈ D) : m.toJson.toDocument.depth ≤ Json.nestingLimit - 1 := by
  cases h with
  | fetched hm =>
    obtain ⟨d', hget⟩ := hd.exists_of_mem hx
    exact (Gateway.fits_of_getUser hget).metadata m hm
  | found ha hm =>
    obtain ⟨d', hsearch⟩ := hd.exists_of_mem hx
    exact ((Gateway.fits_of_searchUsers hsearch ha).metadata m hm).trans (Nat.sub_le _ _)
  | stored =>
    obtain ⟨d', hpatch⟩ := hd.exists_of_mem hx
    exact Gateway.depth_of_patchMetadata hpatch

/-- **A user that a call returns fits** the reader that it was read with. -/
theorem fits_of_ok {call : Service.Call} {d : List Procedure.Exchange} {user : User}
    (h : Conducts (i.program call) d (.finished (.ok user))) : user.Fits Json.nestingLimit := by
  obtain ⟨D, hD, hd⟩ := Program.conducts_expand_iff.1 h
  refine ⟨by decide, fun m hm ↦ ?_⟩
  obtain ⟨x, hx, hreports⟩ := Service.exists_reports hD hm
  exact depth_of_reports hreports hd hx

end Instance

end AccountDirectory
