import AccountDirectory.Proofs.Lookup
import AccountDirectory.Proofs.Service.ConfirmedSearch

/-!
# The ways of a lookup and of a read by id

`LookupRun` and `GetRun` list the ways in which these two operations can go, one constructor for
each, with the dialogue and the ending; every run takes one of them (`lookupRun_of_conducts`,
`getRun_of_conducts`). With the ways of a search and of an update, every operation of the service
has its list, and a law about an operation is a case analysis on it.
-/

namespace AccountDirectory.Service

open Program (Conducts Breaks)
open Lookup (Spells classify)

/-! ### Lookups -/

/-- **The ways of a lookup.** Only a token is asked about, and nobody but the verifier is asked. -/
inductive LookupRun (input : String) : List Exchange → Ending → Prop
  | blank (h : Text.isBlankText input) :
    LookupRun input [] (.finished (.error (.validation "input" "input is required")))
  | unverified {token r e} (h : Spells input token) (hr : Breaks r e) :
    LookupRun input [⟨.verify token readScope, r⟩] e
  | refused {token b} (h : Spells input token) :
    LookupRun input [⟨.verify token readScope, .answer (.error b)⟩] (.finished (.error (.token b)))
  | verified {token claims} (h : Spells input token) :
    LookupRun input [⟨.verify token readScope, .answer (.ok claims)⟩]
      (.finished (.ok { userId := claims.subject, sub := claims.subject, token := some token }))
  | subject {subject} (h : classify input = some (.subject subject)) :
    LookupRun input [] (.finished (.ok { userId := subject }))
  | username {username} (h : classify input = some (.username username)) :
    LookupRun input [] (.finished (.ok { username }))

/-- **Every run of a lookup takes one of these ways.** -/
theorem lookupRun_of_conducts {service : Service} {input : String} {d : List Exchange} {e : Ending}
    (h : Conducts (service.program (.lookup input)) d e) : LookupRun input d e := by
  rw [program, perform, Service.lookup, Action.conducts_log_bind] at h
  rcases hc : classify input with - | token | subject | username
  · rw [hc, Action.conducts_fail] at h
    obtain ⟨rfl, rfl⟩ := h
    exact .blank (Lookup.classify_eq_none_iff.1 hc)
  · have hs : Spells input token := Lookup.classify_eq_token_iff.1 hc
    rw [hc, Action.conducts_debug_bind, Action.conducts_ask_bind] at h
    obtain ⟨r, rfl, hr⟩ | ⟨b, a, rfl, rfl, rfl⟩ | ⟨claims, a, rfl, d, rfl, h⟩ := h
    · exact .unverified hs hr
    · exact .refused hs
    · rw [Action.conducts_debug_bind, Action.conducts_pure] at h
      obtain ⟨rfl, rfl⟩ := h
      exact .verified hs
  · rw [hc, Action.conducts_debug_bind, Action.conducts_pure] at h
    obtain ⟨rfl, rfl⟩ := h
    exact .subject hc
  · rw [hc, Action.conducts_debug_bind, Action.conducts_pure] at h
    obtain ⟨rfl, rfl⟩ := h
    exact .username hc

/-! ### Reads by id -/

/-- **The ways of a read by id.** -/
inductive GetRun (service : Service) (user : User) : List Exchange → Ending → Prop
  | noId (h : Text.isBlankText user.userId) :
    GetRun service user []
      (.finished (.error (.validation "user_id" "user id is required to get a user")))
  | noDomain (hd : Text.isBlankText service.domain) :
    GetRun service user []
      (.finished (.error (.validation "domain" "directory domain is not configured")))
  | noBearer {r e} (hk : user.token.filter (!·.isEmpty) = none) (hr : Breaks r e) :
    GetRun service user [⟨.credential, r⟩] e
  | noCredential {b} (hk : user.token.filter (!·.isEmpty) = none) :
    GetRun service user [⟨.credential, .answer (.error b)⟩]
      (.finished (.error (.unexpected "failed to get M2M token" (some (.credential b)))))
  | unanswered {token asked r e} (hb : Bears user token asked) (hr : Breaks r e) :
    GetRun service user (asked ++ [⟨.get token user.userId, r⟩]) e
  | failed {token asked b} (hb : Bears user token asked) :
    GetRun service user (asked ++ [⟨.get token user.userId, .answer (.error b)⟩])
      (.finished (.error (getFailure b)))
  | absent {token asked} (hb : Bears user token asked) :
    GetRun service user (asked ++ [⟨.get token user.userId, .answer (.ok none)⟩])
      (.finished (.error .userNotFound))
  | found {token asked account} (hb : Bears user token asked) :
    GetRun service user (asked ++ [⟨.get token user.userId, .answer (.ok (some account))⟩])
      (.finished (.ok account.toUser))

/-- The last step of a read by id, with the bearer token at hand. -/
theorem getRun_of_bears {service : Service} {user : User} {token : String}
    {asked d : List Exchange} {e : Ending} (hb : Bears user token asked)
    (h : Conducts (do
      match ← Action.ask (.get token user.userId) id getFailure with
      | none =>
        Action.debug "directory answered without a user object"
        Action.fail .userNotFound
      | some account =>
        Action.debug "user retrieved"
        pure account.toUser : Action User).run d e) :
    GetRun service user (asked ++ d) e := by
  rw [Action.conducts_ask_bind] at h
  obtain ⟨r, rfl, hr⟩ | ⟨b, a, rfl, rfl, rfl⟩ | ⟨found, a, rfl, d, rfl, h⟩ := h
  · exact .unanswered hb hr
  · exact .failed hb
  rcases found with - | account
  · rw [Action.conducts_debug_bind, Action.conducts_fail] at h
    obtain ⟨rfl, rfl⟩ := h
    exact .absent hb
  · rw [Action.conducts_debug_bind, Action.conducts_pure] at h
    obtain ⟨rfl, rfl⟩ := h
    exact .found hb

/-- **Every run of a read by id takes one of these ways.** -/
theorem getRun_of_conducts {service : Service} {user : User} {d : List Exchange} {e : Ending}
    (h : Conducts (service.program (.getUser user)) d e) : GetRun service user d e := by
  rw [program, perform, getUser, Action.conducts_log_bind] at h
  by_cases hid : Text.isBlankText user.userId
  · rw [if_pos hid, Action.conducts_fail_bind] at h
    obtain ⟨rfl, rfl⟩ := h
    exact .noId hid
  rw [if_neg hid] at h
  obtain ⟨hd, rfl, rfl⟩ | ⟨-, h⟩ := conducts_requireDomain_bind.1 h
  · exact .noDomain hd
  rw [conducts_readToken_bind] at h
  obtain ⟨token, hk, h⟩ | ⟨hk, ⟨r, rfl, hr⟩ | ⟨b, rfl, rfl⟩ | ⟨token, d, rfl, ht⟩⟩ := h
  · exact getRun_of_bears (.own hk) h
  · exact .noBearer hk hr
  · exact .noCredential hk
  · exact getRun_of_bears (.service hk) ht

end AccountDirectory.Service
