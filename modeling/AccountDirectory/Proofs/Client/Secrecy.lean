import AccountDirectory.Proofs.Client.Logs
import AccountDirectory.Proofs.Lookup
import AccountDirectory.Proofs.Redaction
import AccountDirectory.Proofs.Selection
import AccountDirectory.Proofs.Service.CheckedReads

/-!
# What the logs of a client call show

The **view** of a call is what its logs may depend on, once the answers of the collaborators are
fixed: masked identifiers, whether they are blank, whether there is a token, and of a username also
whether it is the deciding id of the accounts that are found. Two calls with the same view log the
same, entry by entry (`logsAlike_of_view_eq`). What is not in the view is concealed; above all these
are the bytes of every token, and metadata.

**Why a blank term is seen.** A search refuses a term that is empty, and the view says whether the
term is blank. The two are the same (`isBlankText_searchTerm`): the term is trimmed, and
lower-casing makes no blank.

**Why a deciding username is seen.** A search by username ends with an account or with a note that
another identity was matched, so the logs tell whether the two names are equal.
-/

namespace AccountDirectory

open Redaction (redact redactEmail hint IsAddress)
open Client (LogsAlike)

/-! ### The view of a call -/

/-- What is seen of the way in which an identifier is resolved. -/
inductive StrategyView
  | token
  | subject (masked : String)
  | username (masked : String)

/-- What is seen of a strategy: of a token nothing. -/
def Lookup.Strategy.view : Lookup.Strategy → StrategyView
  | .token _ => .token
  | .subject value => .subject (redact value)
  | .username value => .username (redact value)

/-- What is seen of a search term. -/
structure TermView where
  masked : String
  isBlank : Bool
  hasToken : Bool
  /-- The term is the deciding id of the accounts that are found, if these have one. -/
  decides : Option Bool

/-- What is seen of a call. -/
inductive CallView
  | getUser (masked : String) (isBlank hasToken : Bool)
  | searchUser (criteria : String) (term : Option TermView)
  | lookup (strategy : Option StrategyView)
  | updateUser (hasToken hasMetadata : Bool)

namespace Service

/-- The deciding id of the accounts that a search finds, if it gets as far as that. -/
def decidingId? (service : Service) (script : Script) (hasToken : Bool) : Option String :=
  if Text.isBlankText service.domain then none
  else
    match (script.afterToken hasToken).map fun place ↦ (script place).search with
    | some (.answer (.ok accounts)) => Selection.decidingId accounts
    | _ => none

/-- **The view of a search term**: the email is seen as a masked address, the username as a masked
value. Only of a username it is seen whether it decides. -/
def termView (service : Service) (script : Script) (user : User) : Criteria → TermView
  | .email =>
    let email := String.ofList (Text.LowerCase.lower (Text.trimBoth user.primaryEmail.toList))
    { masked := redactEmail email
      isBlank := Text.isBlankText email
      hasToken := user.hasToken
      decides := none }
  | .username =>
    let name := Text.trim user.username
    { masked := redact name
      isBlank := Text.isBlankText name
      hasToken := user.hasToken
      decides := (service.decidingId? script user.hasToken).map (· == name) }

/-- **The view of a call.** -/
def view (service : Service) (script : Script) : Call → CallView
  | .getUser user => .getUser (redact user.userId) (Text.isBlankText user.userId) user.hasToken
  | .searchUser user name =>
    .searchUser name ((Criteria.ofName? name).map (service.termView script user))
  | .lookup input => .lookup ((Lookup.classify input).map (·.view))
  | .updateUser user =>
    .updateUser (user.token.filter (!Text.isBlankText ·)).isSome user.metadata.isSome

variable {service : Service} {script : Script} {operation : String} {user user' : User}
  {criteria : Criteria}

/-- Two terms that are seen alike are masked alike, both blank or both not, and come with a token
or both without. -/
theorem searchTerm_alike (h : service.termView script user criteria =
      service.termView script user' criteria) :
    redactTerm criteria (searchTerm user criteria) =
        redactTerm criteria (searchTerm user' criteria) ∧
      Text.isBlankText (searchTerm user criteria) =
        Text.isBlankText (searchTerm user' criteria) ∧
      user.hasToken = user'.hasToken := by
  cases criteria with
  | email | username =>
    obtain ⟨hmasked, hblank, htoken, -⟩ := TermView.mk.inj h
    exact ⟨hmasked, hblank, htoken⟩

/-- Two usernames that are seen alike both decide or both do not. -/
theorem decides_alike (h : service.termView script user .username =
      service.termView script user' .username) :
    (service.decidingId? script user.hasToken).map (· == searchTerm user .username) =
      (service.decidingId? script user'.hasToken).map (· == searchTerm user' .username) :=
  congrArg TermView.decides h

/-! ### The operations -/

theorem logsAlike_getUser (hmasked : redact user.userId = redact user'.userId)
    (hblank : Text.isBlankText user.userId = Text.isBlankText user'.userId)
    (htoken : user.hasToken = user'.hasToken) :
    LogsAlike script operation 0 (service.getUser user) (service.getUser user') := by
  rw [getUser, getUser]
  refine .log (by rw [hmasked]) ?_
  by_cases hid : Text.isBlankText user.userId
  · rw [if_pos hid, if_pos (hblank ▸ hid)]
    exact .fail
  · rw [if_neg hid, if_neg (hblank ▸ hid)]
    refine .requireDomain fun _ ↦ .readToken htoken fun place _ token token' ↦ ?_
    exact .ask rfl fun found _ ↦ .refl _

/-- The accounts of an answered search have the deciding id. -/
theorem decidingId?_eq {hasToken : Bool} {place : Nat} {accounts : List Account}
    (hdomain : ¬Text.isBlankText service.domain) (hplace : place ∈ script.afterToken hasToken)
    (hfound : (script place).search = .answer (.ok accounts)) :
    service.decidingId? script hasToken = Selection.decidingId accounts := by
  rw [decidingId?, if_neg hdomain, Option.mem_def.1 hplace, Option.map_some, hfound]

theorem logsAlike_searchUser {name : String}
    (hterm : (Criteria.ofName? name).map (service.termView script user) =
      (Criteria.ofName? name).map (service.termView script user')) :
    LogsAlike script operation 0 (service.searchUser user name)
      (service.searchUser user' name) := by
  rw [searchUser, searchUser]
  refine .log rfl ?_
  cases hc : Criteria.ofName? name with
  | none => exact .refl _
  | some criteria =>
    rw [hc] at hterm
    have halike := Option.some.inj hterm
    obtain ⟨hmasked, hblank, htoken⟩ := searchTerm_alike halike
    rw [isBlankText_searchTerm, isBlankText_searchTerm] at hblank
    refine .requireDomain fun hdomain ↦ ?_
    dsimp only
    by_cases hempty : (searchTerm user criteria).isEmpty
    · rw [if_pos hempty, if_pos (hblank ▸ hempty)]
      exact .fail
    rw [if_neg hempty, if_neg (hblank ▸ hempty)]
    refine .readToken htoken fun place hplace token token' ↦ .log (by rw [hmasked]) ?_
    refine .ask rfl fun accounts haccounts ↦ .log rfl ?_
    have hfound : (script place).search = .answer (.ok accounts) := heard_id.symm.trans haccounts
    have hscan : Selection.scan criteria (searchTerm user criteria) accounts =
        Selection.scan criteria (searchTerm user' criteria) accounts := by
      refine Selection.scan_congr ?_ ?_
      · rintro rfl
        exact hmasked
      · rintro rfl id hid
        have hdecides := decides_alike halike
        rw [← htoken, decidingId?_eq hdomain hplace hfound, Option.mem_def.1 hid] at hdecides
        exact beq_eq_beq.1 (Option.some.inj hdecides)
    rw [hscan]
    exact .refl _

theorem logsAlike_updateUser
    (htoken : (user.token.filter (!Text.isBlankText ·)).isSome =
      (user'.token.filter (!Text.isBlankText ·)).isSome)
    (hmetadata : user.metadata.isSome = user'.metadata.isSome) :
    LogsAlike script operation 0 (service.updateUser user) (service.updateUser user') := by
  rw [updateUser, updateUser]
  refine .log rfl ?_
  generalize user.token.filter (!Text.isBlankText ·) = own at htoken ⊢
  generalize user'.token.filter (!Text.isBlankText ·) = own' at htoken ⊢
  generalize user.metadata = metadata at hmetadata ⊢
  generalize user'.metadata = metadata' at hmetadata ⊢
  match own, own', htoken with
  | none, none, _ => exact .refl _
  | some token, some token', _ =>
    refine .ask rfl fun claims _ ↦ .requireDomain fun _ ↦ ?_
    match metadata, metadata', hmetadata with
    | none, none, _ => exact .refl _
    | some metadata, some metadata', _ => exact .ask rfl fun stored _ ↦ .refl _

theorem logsAlike_lookup {input input' : String}
    (hstrategy : (Lookup.classify input).map (·.view) = (Lookup.classify input').map (·.view)) :
    LogsAlike script operation 0 (lookup input) (lookup input') := by
  rw [lookup, lookup]
  refine .log rfl ?_
  generalize Lookup.classify input = strategy at hstrategy ⊢
  generalize Lookup.classify input' = strategy' at hstrategy ⊢
  match strategy, strategy', hstrategy with
  | none, none, _ => exact .refl _
  | some (.token _), some (.token _), _ =>
    exact .log rfl (.ask rfl fun claims _ ↦ .log rfl .pure)
  | some (.subject subject), some (.subject subject'), h =>
    have hmasked : redact subject = redact subject' := StrategyView.subject.inj (Option.some.inj h)
    exact .log (by rw [hmasked]) .pure
  | some (.username username), some (.username username'), h =>
    have hmasked : redact username = redact username' :=
      StrategyView.username.inj (Option.some.inj h)
    exact .log (by rw [hmasked]) .pure

/-- **Calls that show the same are calls of one operation**, and log the same. -/
theorem logsAlike_of_view_eq {c c' : Call} (h : service.view script c = service.view script c') :
    c.name = c'.name ∧
      LogsAlike script c.name 0 (service.perform c) (service.perform c') := by
  match c, c', h with
  | .getUser user, .getUser user', h =>
    obtain ⟨hmasked, hblank, htoken⟩ := CallView.getUser.inj h
    exact ⟨rfl, logsAlike_getUser hmasked hblank htoken⟩
  | .searchUser user name, .searchUser user' name', h =>
    obtain ⟨rfl, hterm⟩ := CallView.searchUser.inj h
    exact ⟨rfl, logsAlike_searchUser hterm⟩
  | .lookup input, .lookup input', h =>
    exact ⟨rfl, logsAlike_lookup (CallView.lookup.inj h)⟩
  | .updateUser user, .updateUser user', h =>
    obtain ⟨htoken, hmetadata⟩ := CallView.updateUser.inj h
    exact ⟨rfl, logsAlike_updateUser htoken hmetadata⟩

/-! ### What the logs conceal -/

/-- What a client call logs; `cancelled` says that it was cancelled before it started. -/
def logs (service : Service) (script : Script) (cancelled : Bool) (c : Call) : List LogEntry :=
  (Client.call service cancelled c script.respond 0).logged

/-- **What the logs conceal** of the calls that meet a script. The script may also interrupt a call,
or let it wait for ever. -/
structure Conceals (service : Service) (script : Script) : Prop where
  /-- Calls that show the same log the same. -/
  alike : ∀ cancelled c c', service.view script c = service.view script c' →
    service.logs script cancelled c = service.logs script cancelled c'
  /-- A call that was cancelled before it started logs its name alone. -/
  unstarted : ∀ c, service.logs script true c = [Client.failureEntry c.name .cancelled]
  /-- The token of a read is not logged. -/
  readTokens : ∀ cancelled (user : User) token token', token ≠ "" → token' ≠ "" →
    service.logs script cancelled (.getUser { user with token := some token }) =
        service.logs script cancelled (.getUser { user with token := some token' }) ∧
      ∀ criteria,
        service.logs script cancelled (.searchUser { user with token := some token } criteria) =
          service.logs script cancelled (.searchUser { user with token := some token' } criteria)
  /-- A token that is looked up is not logged. -/
  lookedUp : ∀ cancelled input input' token token',
    Lookup.Spells input token → Lookup.Spells input' token' →
      service.logs script cancelled (.lookup input) =
        service.logs script cancelled (.lookup input')
  /-- Neither the token nor the metadata of an update is logged, nor any other of its fields. -/
  updates : ∀ cancelled (user user' : User) token token' metadata metadata',
    ¬Text.isBlankText token → ¬Text.isBlankText token' →
      service.logs script cancelled
          (.updateUser { user with token := some token, metadata := some metadata }) =
        service.logs script cancelled
          (.updateUser { user' with token := some token', metadata := some metadata' })
  /-- A masked value shows its hint and nothing else. -/
  values : ∀ a b, redact a = redact b ↔ hint a = hint b
  /-- A masked address shows its domain, the hint of its name, and nothing else. -/
  addresses : ∀ email email' name name' domain domain',
    IsAddress email name domain → IsAddress email' name' domain' →
      (redactEmail email = redactEmail email' ↔
        hint (String.ofList name) = hint (String.ofList name') ∧ domain = domain')
  /-- What is no address is masked as a value. -/
  others : ∀ email, (∀ name domain, ¬IsAddress email name domain) →
    redactEmail email = redact email

theorem logs_eq_of_view_eq {cancelled : Bool} {c c' : Call}
    (h : service.view script c = service.view script c') :
    service.logs script cancelled c = service.logs script cancelled c' := by
  obtain ⟨hname, halike⟩ := logsAlike_of_view_eq h
  cases cancelled with
  | true =>
    show [Client.failureEntry c.name .cancelled] = [Client.failureEntry c'.name .cancelled]
    rw [hname]
  | false =>
    show Client.entries script c.name 0 _ = Client.entries script c'.name 0 _
    rw [← hname]
    exact halike

/-- A record with a token that is not empty has one. -/
theorem hasToken_of_ne_empty {token : String} (h : token ≠ "") (user : User) :
    User.hasToken { user with token := some token } = true := by
  simp [User.hasToken, Option.filter, h]

/-- **The logs of a client conceal what they should**, for every service and whatever its
collaborators answer. -/
theorem logs_conceal (service : Service) (script : Script) : Conceals service script where
  alike := fun _ _ _ h ↦ logs_eq_of_view_eq h
  unstarted := fun _ ↦ rfl
  readTokens := by
    intro cancelled user token token' ht ht'
    have hsame : User.hasToken { user with token := some token } =
        User.hasToken { user with token := some token' } :=
      (hasToken_of_ne_empty ht user).trans (hasToken_of_ne_empty ht' user).symm
    have hterm : service.termView script { user with token := some token } =
        service.termView script { user with token := some token' } := by
      funext criteria
      cases criteria <;> simp only [termView, hsame]
    refine ⟨logs_eq_of_view_eq ?_, fun criteria ↦ logs_eq_of_view_eq ?_⟩
    · rw [view, view, hsame]
    · rw [view, view, hterm]
  lookedUp := by
    intro cancelled input input' token token' h h'
    apply logs_eq_of_view_eq
    rw [view, view, Lookup.classify_eq_token_iff.2 h, Lookup.classify_eq_token_iff.2 h']
    rfl
  updates := by
    intro cancelled user user' token token' metadata metadata' ht ht'
    apply logs_eq_of_view_eq
    simp [view, Option.filter, ht, ht']
  values := fun _ _ ↦ Redaction.redact_eq_iff
  addresses := fun _ _ _ _ _ _ h h' ↦ Redaction.redactEmail_eq_iff h h'
  others := fun _ h ↦ Redaction.redactEmail_of_forall_not h

example : logs ⟨"tenant.test"⟩ (fun _ ↦ ⟨.never, .never, .never, .never, .never⟩) false
    (.getUser { userId := "auth0|65a1" }) =
      [.span "get_user" [("user_id", "au***")],
        .event .debug "no caller token, using service credentials" []] := by
  decide +kernel

end Service

end AccountDirectory
