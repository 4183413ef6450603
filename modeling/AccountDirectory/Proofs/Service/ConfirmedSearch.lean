import AccountDirectory.Proofs.Selection
import AccountDirectory.Proofs.Service.Steps

/-!
# Confirmed searches

A search hands the directory's answer to the selection and to nothing else, so a user that it
returns is confirmed by a password identity whatever the directory answers. `SearchRun` lists the
ways in which a search can go, and `searchRun_of_conducts` is the inversion; `Confirmed` is what the
flat law of the selection makes of it.
-/

namespace AccountDirectory

open Program (Conducts Breaks)

namespace Action

variable {β : Type} {d : List Service.Exchange} {e : Program.Ending (Except DirectoryError β)}

/-- Notes ask nobody. -/
theorem conducts_notes_bind {notes : List LogEntry} {f : PUnit → Action β} :
    Conducts (notes.forM log >>= f).run d e ↔ Conducts (f ⟨⟩).run d e := by
  induction notes with
  | nil => exact Iff.rfl
  | cons entry rest ih =>
    show Conducts ((log entry >>= fun _ ↦ rest.forM log) >>= f).run d e ↔ _
    rw [bind_assoc, conducts_log_bind]
    exact ih

end Action

namespace Service

/-- The exchanges by which a read comes to its bearer token: none when the caller brought one. -/
inductive Bears (user : User) : String → List Exchange → Prop
  | own {token} (h : user.token.filter (!·.isEmpty) = some token) : Bears user token []
  | service {token} (h : user.token.filter (!·.isEmpty) = none) :
    Bears user token [⟨.credential, .answer (.ok token)⟩]

/-- **The ways of a search.** -/
inductive SearchRun (service : Service) (user : User) (criteriaName : String) :
    List Exchange → Ending → Prop
  | unknown (hc : Criteria.ofName? criteriaName = none) :
    SearchRun service user criteriaName [] (.finished (.error (Criteria.unknown criteriaName)))
  | noDomain (hd : Text.isBlankText service.domain) :
    SearchRun service user criteriaName []
      (.finished (.error (.validation "domain" "directory domain is not configured")))
  | noTerm {criteria} (hc : Criteria.ofName? criteriaName = some criteria)
    (ht : (searchTerm user criteria).isEmpty) :
    SearchRun service user criteriaName []
      (.finished (.error
        (.validation criteria.name (criteria.name ++ " is required to search a user"))))
  | noBearer {r e} (hr : Breaks r e) :
    SearchRun service user criteriaName [⟨.credential, r⟩] e
  | noCredential {b} :
    SearchRun service user criteriaName [⟨.credential, .answer (.error b)⟩]
      (.finished (.error (.unexpected "failed to get M2M token" (some (.credential b)))))
  | unanswered {criteria token asked r e} (hc : Criteria.ofName? criteriaName = some criteria)
    (hb : Bears user token asked) (hr : Breaks r e) :
    SearchRun service user criteriaName
      (asked ++ [⟨.search token criteria (searchTerm user criteria), r⟩]) e
  | failed {criteria token asked b} (hc : Criteria.ofName? criteriaName = some criteria)
    (hb : Bears user token asked) :
    SearchRun service user criteriaName
      (asked ++ [⟨.search token criteria (searchTerm user criteria), .answer (.error b)⟩])
      (.finished (.error (.unexpected "failed to search user" (some (.gateway b)))))
  | answered {criteria token asked accounts} (hc : Criteria.ofName? criteriaName = some criteria)
    (hb : Bears user token asked) :
    SearchRun service user criteriaName
      (asked ++ [⟨.search token criteria (searchTerm user criteria), .answer (.ok accounts)⟩])
      (.finished (Selection.select accounts criteria (searchTerm user criteria)))

/-- The last step of a search, with the bearer token at hand. -/
theorem searchRun_of_bears {service : Service} {user : User} {criteriaName : String}
    {criteria : Criteria} {token : String} {asked d : List Exchange} {e : Ending}
    (hc : Criteria.ofName? criteriaName = some criteria) (hb : Bears user token asked)
    (h : Conducts (do
      Action.debug "searching directory"
        [("term", redactTerm criteria (searchTerm user criteria))]
      let accounts ← Action.ask (.search token criteria (searchTerm user criteria)) id fun e ↦
        .unexpected "failed to search user" (some (.gateway e))
      Action.debug "search returned" [("candidates", toString accounts.length)]
      let (notes, outcome) := Selection.scan criteria (searchTerm user criteria) accounts
      notes.forM Action.log
      ExceptT.mk (.done outcome) : Action User).run d e) :
    SearchRun service user criteriaName (asked ++ d) e := by
  rw [Action.debug, Action.conducts_log_bind, Action.conducts_ask_bind] at h
  obtain ⟨r, rfl, hr⟩ | ⟨b, a, rfl, rfl, rfl⟩ | ⟨accounts, a, rfl, d, rfl, h⟩ := h
  · exact .unanswered hc hb hr
  · exact .failed hc hb
  rw [Action.debug, Action.conducts_log_bind, Action.conducts_notes_bind] at h
  obtain ⟨rfl, rfl⟩ := Program.conducts_done_iff.1 h
  exact .answered hc hb

/-- **Every run of a search takes one of these ways.** -/
theorem searchRun_of_conducts {service : Service} {user : User} {criteriaName : String}
    {d : List Exchange} {e : Ending}
    (h : Conducts (service.program (.searchUser user criteriaName)) d e) :
    SearchRun service user criteriaName d e := by
  rw [program, perform, searchUser, Action.conducts_log_bind] at h
  cases hc : Criteria.ofName? criteriaName with
  | none =>
    rw [hc, Action.conducts_fail] at h
    obtain ⟨rfl, rfl⟩ := h
    exact .unknown hc
  | some criteria =>
    rw [hc, conducts_requireDomain_bind] at h
    obtain ⟨hd, rfl, rfl⟩ | ⟨-, h⟩ := h
    · exact .noDomain hd
    dsimp only at h
    by_cases ht : (searchTerm user criteria).isEmpty
    · rw [if_pos ht, Action.conducts_fail_bind] at h
      obtain ⟨rfl, rfl⟩ := h
      exact .noTerm hc ht
    · rw [if_neg ht, conducts_readToken_bind] at h
      obtain ⟨token, hk, h⟩ | ⟨hk, ⟨r, rfl, hr⟩ | ⟨b, rfl, rfl⟩ | ⟨token, d, rfl, h⟩⟩ := h
      · exact searchRun_of_bears hc (.own hk) h
      · exact .noBearer hr
      · exact .noCredential
      · exact searchRun_of_bears hc (.service hk) h

/-! ### What a search returns -/

/-- **A confirmed search**, as a law about the dialogue `d` of one search and its ending `e`. -/
structure Confirmed (user : User) (criteriaName : String) (d : List Exchange) (e : Ending) :
    Prop where
  /-- Whatever the directory answers, the selection decides on it. -/
  decided : ∀ token criteria term accounts,
    ⟨.search token criteria term, .answer (.ok accounts)⟩ ∈ d →
      Criteria.ofName? criteriaName = some criteria ∧ term = searchTerm user criteria ∧
        e = .finished (Selection.select accounts criteria term)
  /-- A user that is found is an account of the directory's answer, under the id of one of its
  password identities. -/
  owned : ∀ found, e = .finished (.ok found) → ∃ token criteria accounts,
    ⟨.search token criteria (searchTerm user criteria), .answer (.ok accounts)⟩ ∈ d ∧
      ∃ account ∈ accounts, account.Owns found.username ∧
        found = { account.toUser with username := found.username }
  /-- A search by username finds the trimmed name. -/
  named : ∀ found, e = .finished (.ok found) → criteriaName = Criteria.username.name →
    found.username = Text.trim user.username

theorem Bears.not_search {user : User} {token : String} {asked : List Exchange}
    (h : Bears user token asked) {t term criteria r} : ⟨.search t criteria term, r⟩ ∉ asked := by
  cases h <;> simp

/-- Every way of a search is confirmed. -/
theorem SearchRun.confirmed {service : Service} {user : User} {criteriaName : String}
    {d : List Exchange} {e : Ending} (h : SearchRun service user criteriaName d e) :
    Confirmed user criteriaName d e where
  decided := by
    intro token criteria term accounts hx
    cases h with
    | unknown | noDomain | noTerm => cases hx
    | noBearer | noCredential => cases List.mem_singleton.1 hx
    | unanswered _ hb hr =>
      obtain hx | hx := List.mem_append.1 hx
      · exact absurd hx hb.not_search
      · cases List.mem_singleton.1 hx
        cases hr
    | failed _ hb =>
      obtain hx | hx := List.mem_append.1 hx
      · exact absurd hx hb.not_search
      · cases List.mem_singleton.1 hx
    | answered hc hb =>
      obtain hx | hx := List.mem_append.1 hx
      · exact absurd hx hb.not_search
      · cases List.mem_singleton.1 hx
        exact ⟨hc, rfl, rfl⟩
  owned := by
    intro found he
    cases h with
    | noBearer hr | unanswered _ _ hr => cases he ▸ hr
    | answered =>
      have hs := Selection.owns_of_select _ _ (Program.Ending.finished.inj he)
      exact ⟨_, _, _, List.mem_append_right _ (List.mem_singleton_self _), hs.2⟩
    | _ => cases he
  named := by
    intro found he hn
    cases h with
    | noBearer hr | unanswered _ _ hr => cases he ▸ hr
    | answered hc =>
      obtain rfl := Option.some.inj (hc.symm.trans (congrArg Criteria.ofName? hn))
      exact (Selection.owns_of_select _ _ (Program.Ending.finished.inj he)).1 rfl
    | _ => cases he

/-- **A search returns confirmed users only.** The selection is the flat law: only the first
confirmation counts. Whatever stands after the account that decides, and accounts and identities
that confirm nothing, cannot change what it selects. And every search, for all behaviour of the
collaborators, returns what is selected from the directory's answer. -/
theorem searchUser_confirmed {σ : Type} (service : Service) (user : User) (criteriaName : String)
    (respond : σ → (op : Collaborator) → Program.Reply op.Answer × σ) (s : σ) :
    let search := service.program (.searchUser user criteriaName)
    Confirmed user criteriaName (search.dialogue respond s) (search.run respond s).ending ∧
      (∀ accounts criteria requested,
        Selection.select accounts criteria requested =
          Selection.verdict criteria requested (Selection.confirmations accounts).head?) ∧
      ∀ criteria requested before after account,
        (∀ later, account.passwordIds ≠ [] →
          Selection.select (before ++ account :: after) criteria requested =
            Selection.select (before ++ account :: later) criteria requested) ∧
        (account.passwordIds = [] →
          Selection.select (before ++ account :: after) criteria requested =
            Selection.select (before ++ after) criteria requested) ∧
        ∀ front back i, i.passwordId? = none →
          Selection.select
              (before ++ { account with identities := front ++ i :: back } :: after) criteria
              requested =
            Selection.select (before ++ { account with identities := front ++ back } :: after)
              criteria requested := by
  refine ⟨(searchRun_of_conducts (Program.conducts_run respond _ s)).confirmed, ?_, ?_⟩
  · exact fun accounts criteria requested ↦ Selection.select_eq_verdict criteria requested accounts
  · intro criteria requested before after account
    refine ⟨fun later h ↦ ?_, fun h ↦ ?_, fun front back i h ↦ ?_⟩
    · exact Selection.select_decided criteria requested before after later h
    · exact Selection.select_passed_over criteria requested before after h
    · exact Selection.select_identity_passed_over criteria requested before after account front
        back h

end Service

end AccountDirectory
