import AccountDirectory.Proofs.Service.ConfirmedSearch
import AccountDirectory.Proofs.Text.LowerCase

/-!
# Checked reads

A read by id and a search check what they are given before they ask anybody, come to a bearer token,
and then put one question to the directory. `ReadRun` lists the ways in which this can go, for both
at once, and `CheckedRead` is what follows for one dialogue: which check refuses, who is asked, in
which order and with which arguments.

**The order of the checks counts.** The checks of a read are a list, and its refusal is the failure
of the first one that refuses (`firstRefusal?`), so a record with several faults has one answer. The
name of the criteria comes before this list, since the other checks of a search depend on it.

**Blank and empty terms.** A search refuses a term that is empty. That is the same as a blank one
(`isBlankText_searchTerm`): the term is trimmed, and lower-casing makes no blank.
-/

namespace AccountDirectory.Service

open Program (Conducts Breaks)

/-! ### Search terms -/

/-- **What a search looks for**: the trimmed username, or the trimmed email in lower case. -/
inductive Seeks (user : User) : Criteria → String → Prop
  | username : Seeks user .username (Text.trim user.username)
  | email : Seeks user .email
      (String.ofList (Text.LowerCase.lower (Text.trimBoth user.primaryEmail.toList)))

theorem seeks_searchTerm (user : User) (criteria : Criteria) :
    Seeks user criteria (searchTerm user criteria) := by
  cases criteria with
  | email => exact .email
  | username => exact .username

/-- A search term is empty if it is blank, in lower case too. -/
theorem isBlankText_searchTerm (user : User) (criteria : Criteria) :
    Text.isBlankText (searchTerm user criteria) = (searchTerm user criteria).isEmpty := by
  rw [Bool.eq_iff_iff, String.isEmpty_iff]
  constructor
  · intro h
    cases criteria with
    | email =>
      rw [searchTerm, Text.isBlankText, String.toList_ofList] at h
      have hblank := Text.trimBoth_eq_nil_iff.2 (Text.LowerCase.all_isBlank_of_lower h)
      rw [Text.trimBoth_trimBoth] at hblank
      rw [searchTerm, hblank]
      rfl
    | username =>
      rw [searchTerm, Text.isBlankText_trim] at h
      exact Text.trim_eq_empty_iff.2 h
  · intro h
    rw [h]
    rfl

/-! ### Checks -/

/-- A check of what a read is given. -/
structure Check where
  refuses : Bool
  /-- What the read ends with if the check refuses. -/
  failure : DirectoryError

/-- The failure of the first check that refuses. -/
def firstRefusal? (checks : List Check) : Option DirectoryError :=
  (checks.find? (·.refuses)).map (·.failure)

theorem firstRefusal?_cons_of_refuses {check : Check} {checks : List Check} (h : check.refuses) :
    firstRefusal? (check :: checks) = some check.failure := by
  rw [firstRefusal?, List.find?_cons_of_pos h, Option.map_some]

theorem firstRefusal?_cons_of_not_refuses {check : Check} {checks : List Check}
    (h : ¬check.refuses) : firstRefusal? (check :: checks) = firstRefusal? checks := by
  rw [firstRefusal?, List.find?_cons_of_neg h, firstRefusal?]

theorem firstRefusal?_eq_none_iff {checks : List Check} :
    firstRefusal? checks = none ↔ ∀ check ∈ checks, ¬check.refuses := by
  simp [firstRefusal?]

/-- The service has a domain. -/
def domainCheck (service : Service) : Check where
  refuses := Text.isBlankText service.domain
  failure := .validation "domain" "directory domain is not configured"

/-- The record has an id. -/
def idCheck (user : User) : Check where
  refuses := Text.isBlankText user.userId
  failure := .validation "user_id" "user id is required to get a user"

/-- There is a term for the criteria. -/
def termCheck (criteria : Criteria) (term : String) : Check where
  refuses := Text.isBlankText term
  failure := .validation criteria.name (criteria.name ++ " is required to search a user")

/-- What a read by id checks, in this order. -/
def getChecks (service : Service) (user : User) : List Check :=
  [idCheck user, service.domainCheck]

/-- What a search for a term by a known criteria checks, in this order. -/
def searchChecks (service : Service) (criteria : Criteria) (term : String) : List Check :=
  [service.domainCheck, termCheck criteria term]

/-! ### The ways of a read -/

/-- **The ways of a question** that a run ends with: no answer comes, or the answer decides. -/
inductive Asked (question : Collaborator) (result : question.Answer → Except DirectoryError User) :
    List Exchange → Ending → Prop
  | unanswered {r e} (hr : Breaks r e) : Asked question result [⟨question, r⟩] e
  | answered (a : question.Answer) :
    Asked question result [⟨question, .answer a⟩] (.finished (result a))

/-- A question is the last one if what follows it asks nobody. -/
theorem asked_of_ask_bind {α ε : Type} {op : Collaborator} {answer : op.Answer → Except ε α}
    {onFailure : ε → DirectoryError} {next : α → Action User}
    {result : op.Answer → Except DirectoryError User} {d : List Exchange} {e : Ending}
    (herror : ∀ a b, answer a = .error b → result a = .error (onFailure b))
    (hok : ∀ a x d e, answer a = .ok x → Conducts (next x).run d e →
      d = [] ∧ e = .finished (result a))
    (h : Conducts (Action.ask op answer onFailure >>= next).run d e) : Asked op result d e := by
  rw [Action.conducts_ask_bind] at h
  obtain ⟨r, rfl, hr⟩ | ⟨b, a, ha, rfl, rfl⟩ | ⟨x, a, ha, d, rfl, h⟩ := h
  · exact .unanswered hr
  · rw [← herror a b ha]
    exact .answered a
  · obtain ⟨rfl, rfl⟩ := hok a x d e ha h
    exact .answered a

/-- **The ways of a read**: `refusal` is what the checks say of its input, `question` is what it asks
the directory with a token, and `result` is what it makes of the answer. -/
inductive ReadRun (user : User) (refusal : Option DirectoryError) (question : String → Collaborator)
    (result : (token : String) → (question token).Answer → Except DirectoryError User) :
    List Exchange → Ending → Prop
  | refused {failure} (hr : refusal = some failure) :
    ReadRun user refusal question result [] (.finished (.error failure))
  | noBearer {r e} (hr : refusal = none) (hk : user.token.filter (!·.isEmpty) = none)
    (hb : Breaks r e) : ReadRun user refusal question result [⟨.credential, r⟩] e
  | noCredential {b} (hr : refusal = none) (hk : user.token.filter (!·.isEmpty) = none) :
    ReadRun user refusal question result [⟨.credential, .answer (.error b)⟩]
      (.finished (.error (.unexpected "failed to get M2M token" (some (.credential b)))))
  | asked {token asked d e} (hr : refusal = none) (hb : Bears user token asked)
    (ha : Asked (question token) (result token) d e) :
    ReadRun user refusal question result (asked ++ d) e

variable {service : Service} {user : User} {refusal : Option DirectoryError}
  {question : String → Collaborator}
  {result : (token : String) → (question token).Answer → Except DirectoryError User}
  {d : List Exchange} {e : Ending}

/-- A read that is not refused comes to a token, and then puts its question. -/
theorem readRun_of_readToken {ask : String → Action User} (hr : refusal = none)
    (hask : ∀ token d e, Conducts (ask token).run d e → Asked (question token) (result token) d e)
    (h : Conducts (readToken user >>= ask).run d e) : ReadRun user refusal question result d e := by
  rw [conducts_readToken_bind] at h
  obtain ⟨token, hk, h⟩ | ⟨hk, ⟨r, rfl, hb⟩ | ⟨b, rfl, rfl⟩ | ⟨token, d, rfl, h⟩⟩ := h
  · exact .asked hr (.own hk) (hask token d e h)
  · exact .noBearer hr hk hb
  · exact .noCredential hr hk
  · exact .asked hr (.service hk) (hask token d e h)

/-- What a read by id makes of the answer of the directory. -/
def getResult : Except GatewayError (Option Account) → Except DirectoryError User
  | .error failure => .error (getFailure failure)
  | .ok none => .error .userNotFound
  | .ok (some account) => .ok account.toUser

/-- What a search makes of the answer of the directory. -/
def searchResult (criteria : Criteria) (term : String) :
    Except GatewayError (List Account) → Except DirectoryError User
  | .error failure => .error (.unexpected "failed to search user" (some (.gateway failure)))
  | .ok accounts => Selection.select accounts criteria term

/-- **Every run of a read by id takes one of these ways.** -/
theorem readRun_of_getUser (h : Conducts (service.program (.getUser user)) d e) :
    ReadRun user (firstRefusal? (service.getChecks user)) (.get · user.userId)
      (fun _ ↦ getResult) d e := by
  rw [program, perform, getUser, Action.conducts_log_bind] at h
  by_cases hid : Text.isBlankText user.userId
  · rw [if_pos hid, Action.conducts_fail_bind] at h
    obtain ⟨rfl, rfl⟩ := h
    exact .refused (firstRefusal?_cons_of_refuses hid)
  rw [if_neg hid] at h
  have hchecks : firstRefusal? (service.getChecks user) = firstRefusal? [service.domainCheck] :=
    firstRefusal?_cons_of_not_refuses hid
  rw [hchecks]
  obtain ⟨hd, rfl, rfl⟩ | ⟨hd, h⟩ := conducts_requireDomain_bind.1 h
  · exact .refused (firstRefusal?_cons_of_refuses hd)
  refine readRun_of_readToken (firstRefusal?_cons_of_not_refuses hd) (fun token d e h ↦ ?_) h
  refine asked_of_ask_bind ?_ ?_ h
  · rintro a b rfl
    rfl
  · rintro a found d e rfl h
    rcases found with - | account
    · rw [Action.conducts_debug_bind] at h
      exact Action.conducts_fail.1 h
    · rw [Action.conducts_debug_bind] at h
      exact Action.conducts_pure.1 h

/-- A search by an unknown criteria asks nobody. -/
theorem unknown_of_searchUser {name : String} (hc : Criteria.ofName? name = none)
    (h : Conducts (service.program (.searchUser user name)) d e) :
    d = [] ∧ e = .finished (.error (Criteria.unknown name)) := by
  rw [program, perform, searchUser, Action.conducts_log_bind, hc] at h
  exact Action.conducts_fail.1 h

/-- **Every run of a search by a known criteria takes one of these ways.** -/
theorem readRun_of_searchUser {name : String} {criteria : Criteria}
    (hc : Criteria.ofName? name = some criteria)
    (h : Conducts (service.program (.searchUser user name)) d e) :
    ReadRun user (firstRefusal? (service.searchChecks criteria (searchTerm user criteria)))
      (.search · criteria (searchTerm user criteria))
      (fun _ ↦ searchResult criteria (searchTerm user criteria)) d e := by
  rw [program, perform, searchUser, Action.conducts_log_bind, hc] at h
  obtain ⟨hd, rfl, rfl⟩ | ⟨hd, h⟩ := conducts_requireDomain_bind.1 h
  · exact .refused (firstRefusal?_cons_of_refuses hd)
  have hchecks :
      firstRefusal? (service.searchChecks criteria (searchTerm user criteria)) =
        firstRefusal? [termCheck criteria (searchTerm user criteria)] :=
    firstRefusal?_cons_of_not_refuses hd
  rw [hchecks]
  dsimp only at h
  have hblank := isBlankText_searchTerm user criteria
  by_cases ht : (searchTerm user criteria).isEmpty
  · rw [if_pos ht, Action.conducts_fail_bind] at h
    obtain ⟨rfl, rfl⟩ := h
    exact .refused (firstRefusal?_cons_of_refuses (hblank.trans ht))
  rw [if_neg ht] at h
  rw [← hblank] at ht
  refine readRun_of_readToken (firstRefusal?_cons_of_not_refuses ht) (fun token d e h ↦ ?_) h
  rw [Action.conducts_debug_bind] at h
  refine asked_of_ask_bind ?_ ?_ h
  · rintro a b rfl
    rfl
  · rintro a accounts d e rfl h
    rw [Action.conducts_debug_bind, Action.conducts_notes_bind] at h
    exact Program.conducts_done_iff.1 h

/-! ### The law of one read -/

/-- **How a read without a token of its own goes on** after the source of service tokens replied:
only a token that was granted is used, and as it is. -/
inductive Continues (question : String → Collaborator) :
    Program.Reply (Collaborator.Answer .credential) → List Exchange → Ending → Prop
  | unanswered {r e} (hr : Breaks r e) : Continues question r [] e
  | failed (b : CredentialError) :
    Continues question (.answer (.error b)) []
      (.finished (.error (.unexpected "failed to get M2M token" (some (.credential b)))))
  | asked (token : String) (r : Program.Reply (question token).Answer) (e : Ending) :
    Continues question (.answer (.ok token)) [⟨question token, r⟩] e

/-- **A checked read**, as a law about the dialogue `d` of one read and its ending `e`. -/
structure CheckedRead (user : User) (refusal : Option DirectoryError)
    (question : String → Collaborator) (d : List Exchange) (e : Ending) : Prop where
  /-- Nobody but the source of service tokens is called, and the directory with the question. -/
  only : ∀ x ∈ d, x.op = .credential ∨ ∃ token, x.op = question token
  /-- If a check refuses, nobody is called and its failure is the result. -/
  refused : ∀ failure, refusal = some failure → d = [] ∧ e = .finished (.error failure)
  /-- With a token of the record's own, which is not empty, the question is the one call, and it
  carries this token. -/
  own : refusal = none → ∀ token, user.token = some token → token ≠ "" →
    ∃ r, d = [⟨question token, r⟩]
  /-- Without a token, or with an empty one, a service token is asked for once and first. -/
  service : refusal = none → user.token = none ∨ user.token = some "" →
    ∃ r rest, d = ⟨.credential, r⟩ :: rest ∧ Continues question r rest e

theorem filter_token_eq_some_iff {token : String} :
    user.token.filter (!·.isEmpty) = some token ↔ user.token = some token ∧ token ≠ "" := by
  simp [Option.filter_eq_some_iff]

theorem filter_token_eq_none_iff :
    user.token.filter (!·.isEmpty) = none ↔ user.token = none ∨ user.token = some "" := by
  cases user.token <;> simp [Option.filter]

/-- The question is all that is said at the end. -/
theorem Asked.exists_eq {question : Collaborator}
    {result : question.Answer → Except DirectoryError User} (h : Asked question result d e) :
    ∃ r, d = [⟨question, r⟩] := by
  cases h with
  | unanswered => exact ⟨_, rfl⟩
  | answered a => exact ⟨.answer a, rfl⟩

theorem Bears.only {token : String} {asked : List Exchange} (h : Bears user token asked) :
    ∀ x ∈ asked, x.op = .credential := by
  cases h with
  | own => exact fun x hx ↦ absurd hx List.not_mem_nil
  | service =>
    intro x hx
    rw [List.mem_singleton.1 hx]

/-- Every way of a read is that of a checked read. -/
theorem ReadRun.checkedRead (h : ReadRun user refusal question result d e) :
    CheckedRead user refusal question d e where
  only := by
    intro x hx
    cases h with
    | refused => exact absurd hx List.not_mem_nil
    | noBearer | noCredential =>
      rw [List.mem_singleton.1 hx]
      exact .inl rfl
    | @asked token asked d e _ hb ha =>
      obtain ⟨r, rfl⟩ := ha.exists_eq
      obtain hx | hx := List.mem_append.1 hx
      · exact .inl (hb.only x hx)
      · rw [List.mem_singleton.1 hx]
        exact .inr ⟨token, rfl⟩
  refused := by
    intro failure hf
    cases h with
    | refused hr =>
      rw [Option.some.inj (hr.symm.trans hf)]
      exact ⟨rfl, rfl⟩
    | noBearer hr | noCredential hr | asked hr => cases hr.symm.trans hf
  own := by
    intro hn token ht hne
    have hown : user.token.filter (!·.isEmpty) = some token :=
      filter_token_eq_some_iff.2 ⟨ht, hne⟩
    cases h with
    | refused hr => cases hr.symm.trans hn
    | noBearer _ hk | noCredential _ hk => cases hk.symm.trans hown
    | asked _ hb ha =>
      cases hb with
      | own hk =>
        obtain rfl := Option.some.inj (hk.symm.trans hown)
        exact ha.exists_eq
      | service hk => cases hk.symm.trans hown
  service := by
    intro hn hnone
    have hnone : user.token.filter (!·.isEmpty) = none := filter_token_eq_none_iff.2 hnone
    cases h with
    | refused hr => cases hr.symm.trans hn
    | noBearer _ _ hb => exact ⟨_, [], rfl, .unanswered hb⟩
    | noCredential => exact ⟨_, [], rfl, .failed _⟩
    | @asked token asked d e _ hb ha =>
      cases hb with
      | own hk => cases hk.symm.trans hnone
      | service =>
        obtain ⟨r, rfl⟩ := ha.exists_eq
        exact ⟨_, _, rfl, .asked token r e⟩

/-! ### What a read looks at -/

/-- The field of a record that a search by the criteria starts from. -/
def searchField (user : User) : Criteria → String
  | .email => user.primaryEmail
  | .username => user.username

theorem searchTerm_congr {other : User} {criteria : Criteria}
    (h : searchField other criteria = searchField user criteria) :
    searchTerm other criteria = searchTerm user criteria := by
  cases criteria with
  | email =>
    have hemail : other.primaryEmail = user.primaryEmail := h
    rw [searchTerm, searchTerm, hemail]
  | username =>
    have hname : other.username = user.username := h
    rw [searchTerm, searchTerm, hname]

theorem readToken_congr {other : User} (h : other.token = user.token) :
    readToken other = readToken user := by
  rw [readToken, readToken, h]

/-- **A read by id looks at the token and the id** of the record and at nothing else. -/
theorem program_getUser_congr {other : User} (ht : other.token = user.token)
    (hid : other.userId = user.userId) :
    service.program (.getUser other) = service.program (.getUser user) := by
  rw [program, program, perform, perform, getUser, getUser, readToken_congr ht, hid]

/-- **A search looks at the token and at one field** of the record and at nothing else. -/
theorem program_searchUser_congr {other : User} {name : String} (ht : other.token = user.token)
    (hfield : ∀ criteria, Criteria.ofName? name = some criteria →
      searchField other criteria = searchField user criteria) :
    service.program (.searchUser other name) = service.program (.searchUser user name) := by
  rw [program, program, perform, perform, searchUser, searchUser]
  cases hc : Criteria.ofName? name with
  | none => rfl
  | some criteria =>
    dsimp only
    rw [readToken_congr ht, searchTerm_congr (hfield criteria hc)]

/-- **Reads are checked first, call each collaborator at most once and use nothing else of the
record.** For all behaviour of the collaborators: a read by id and a search by a known criteria are
checked reads; a search by an unknown criteria is refused before any other check; and two records
with the same token and the same field that is used give the same run. -/
theorem reads_checked {σ : Type} (service : Service) (user : User)
    (respond : σ → (op : Collaborator) → Program.Reply op.Answer × σ) (s : σ) :
    let get := service.program (.getUser user)
    let search := fun name ↦ service.program (.searchUser user name)
    CheckedRead user (firstRefusal? (service.getChecks user)) (.get · user.userId)
        (get.dialogue respond s) (get.run respond s).ending ∧
      (∀ name, Criteria.ofName? name = none → (search name).dialogue respond s = [] ∧
        ((search name).run respond s).ending = .finished (.error (Criteria.unknown name))) ∧
      (∀ name criteria, Criteria.ofName? name = some criteria →
        ∃ term, Seeks user criteria term ∧
          CheckedRead user (firstRefusal? (service.searchChecks criteria term))
            (.search · criteria term) ((search name).dialogue respond s)
            ((search name).run respond s).ending) ∧
      ∀ other : User, other.token = user.token →
        (other.userId = user.userId →
          (service.program (.getUser other)).run respond s = get.run respond s) ∧
        ∀ name, (∀ criteria, Criteria.ofName? name = some criteria →
            searchField other criteria = searchField user criteria) →
          (service.program (.searchUser other name)).run respond s =
            (search name).run respond s := by
  have hconducts : ∀ call : Call, Conducts (service.program call)
      ((service.program call).dialogue respond s)
      ((service.program call).run respond s).ending :=
    fun call ↦ Program.conducts_run respond (service.program call) s
  refine ⟨(readRun_of_getUser (hconducts _)).checkedRead, fun name hc ↦ ?_,
    fun name criteria hc ↦ ?_, fun other ht ↦ ⟨fun hid ↦ ?_, fun name hfield ↦ ?_⟩⟩
  · exact unknown_of_searchUser hc (hconducts _)
  · exact ⟨_, seeks_searchTerm user criteria,
      (readRun_of_searchUser hc (hconducts _)).checkedRead⟩
  · rw [program_getUser_congr ht hid]
  · rw [program_searchUser_congr ht hfield]

end AccountDirectory.Service
