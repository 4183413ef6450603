import AccountDirectory.Proofs.Service.Steps

/-!
# The mutation gate

An update reaches the directory only through a token that the verifier accepted for the update
scope, and only at the subject of that token. `Gated` states this of one dialogue: which calls are
made, in which order, with which arguments, and how the run ends.

**One inversion carries everything.** `UpdateRun` lists the ways in which an update can go, one
constructor for each; every run takes one of them (`updateRun_of_conducts`), and each clause of
`Gated` is a case analysis on it. Nothing is assumed of the collaborators: they may fail, answer
differently each time, or never reply.

The caller-controlled fields of the record other than token and metadata do not enter the program
at all, so two runs on records that differ only there are the same run.
-/

namespace AccountDirectory

open Program (Conducts Breaks)

namespace Service

/-- The record carries this token, and it is not blank. -/
def Presents (user : User) (token : String) : Prop :=
  user.token = some token ∧ ¬Text.isBlankText token

theorem presents_iff {user : User} {token : String} :
    Presents user token ↔ user.token.filter (!Text.isBlankText ·) = some token := by
  simp [Presents, Option.filter_eq_some_iff]

/-- The record carries a blank token or none. -/
theorem filter_eq_none_iff {user : User} :
    user.token.filter (!Text.isBlankText ·) = none ↔ ∀ token, ¬Presents user token := by
  simp [Presents]

/-- **The ways of an update.** -/
inductive UpdateRun (service : Service) (user : User) : List Exchange → Ending → Prop
  | missing (h : ∀ token, ¬Presents user token) :
    UpdateRun service user [] (.finished (.error (.token .missing)))
  | unverified {token r e} (h : Presents user token) (hr : Breaks r e) :
    UpdateRun service user [⟨.verify token updateScope, r⟩] e
  | refused {token b} (h : Presents user token) :
    UpdateRun service user [⟨.verify token updateScope, .answer (.error b)⟩]
      (.finished (.error (.token b)))
  | noDomain {token claims} (h : Presents user token) (hd : Text.isBlankText service.domain) :
    UpdateRun service user [⟨.verify token updateScope, .answer (.ok claims)⟩]
      (.finished (.error (.validation "domain" "directory domain is not configured")))
  | noMetadata {token claims} (h : Presents user token) (hd : ¬Text.isBlankText service.domain)
    (hm : user.metadata = none) :
    UpdateRun service user [⟨.verify token updateScope, .answer (.ok claims)⟩]
      (.finished
        (.error (.validation "user_metadata" "user metadata is required for update")))
  | unpatched {token claims metadata r e} (h : Presents user token)
    (hd : ¬Text.isBlankText service.domain) (hm : user.metadata = some metadata)
    (hr : Breaks r e) :
    UpdateRun service user
      [⟨.verify token updateScope, .answer (.ok claims)⟩,
        ⟨.patch token claims.subject metadata, r⟩] e
  | failed {token claims metadata b} (h : Presents user token)
    (hd : ¬Text.isBlankText service.domain) (hm : user.metadata = some metadata) :
    UpdateRun service user
      [⟨.verify token updateScope, .answer (.ok claims)⟩,
        ⟨.patch token claims.subject metadata, .answer (.error b)⟩]
      (.finished (.error (.unexpected "failed to update user" (some (.gateway b)))))
  | updated {token claims metadata stored} (h : Presents user token)
    (hd : ¬Text.isBlankText service.domain) (hm : user.metadata = some metadata) :
    UpdateRun service user
      [⟨.verify token updateScope, .answer (.ok claims)⟩,
        ⟨.patch token claims.subject metadata, .answer (.ok stored)⟩]
      (.finished (.ok { metadata := stored }))

/-- **Every run of an update takes one of these ways.** -/
theorem updateRun_of_conducts {service : Service} {user : User} {d : List Exchange} {e : Ending}
    (h : Conducts (service.program (.updateUser user)) d e) : UpdateRun service user d e := by
  rw [program, perform, updateUser, Action.conducts_log_bind] at h
  cases ht : user.token.filter (!Text.isBlankText ·) with
  | none =>
    rw [ht, Action.conducts_fail] at h
    obtain ⟨rfl, rfl⟩ := h
    exact .missing (filter_eq_none_iff.1 ht)
  | some token =>
    have hp : Presents user token := presents_iff.2 ht
    rw [ht, Action.conducts_ask_bind] at h
    obtain ⟨r, rfl, hr⟩ | ⟨b, a, rfl, rfl, rfl⟩ | ⟨claims, a, rfl, d, rfl, h⟩ := h
    · exact .unverified hp hr
    · exact .refused hp
    rw [conducts_requireDomain_bind] at h
    obtain ⟨hd, rfl, rfl⟩ | ⟨hd, h⟩ := h
    · exact .noDomain hp hd
    cases hm : user.metadata with
    | none =>
      rw [hm, Action.conducts_fail] at h
      obtain ⟨rfl, rfl⟩ := h
      exact .noMetadata hp hd hm
    | some metadata =>
      rw [hm, Action.conducts_ask_bind] at h
      obtain ⟨r, rfl, hr⟩ | ⟨b, a, rfl, rfl, rfl⟩ | ⟨stored, a, rfl, d, rfl, h⟩ := h
      · exact .unpatched hp hd hm hr
      · exact .failed hp hd hm
      · rw [Action.conducts_log_bind, Action.conducts_pure] at h
        obtain ⟨rfl, rfl⟩ := h
        exact .updated hp hd hm

/-! ### The gate -/

end Service

/-- The operation changes the directory. -/
def Collaborator.isPatch : Collaborator → Bool
  | .patch .. => true
  | _ => false

namespace Service

/-- **The mutation gate**, as a law about the dialogue `d` of one update and its ending `e`. -/
structure Gated (service : Service) (user : User) (d : List Exchange) (e : Ending) : Prop where
  /-- Nobody but the verifier and the patch of the directory is ever called. -/
  only : ∀ x ∈ d, (∃ token scope, x.op = .verify token scope) ∨
    ∃ token target metadata, x.op = .patch token target metadata
  /-- There is at most one patch. -/
  once : (d.filter (·.op.isPatch)).length ≤ 1
  /-- A patch carries the record's own token and metadata, and comes after the verifier accepted
  that token for the update scope; its target is the verified subject. -/
  afterVerify : ∀ before token target metadata r after,
    d = before ++ ⟨.patch token target metadata, r⟩ :: after →
      user.token = some token ∧ user.metadata = some metadata ∧
        ∃ claims : Claims, claims.subject = target ∧
          ⟨.verify token updateScope, .answer (.ok claims)⟩ ∈ before
  /-- Without a token, or with a blank one, nobody is called. -/
  missing : (∀ token, ¬Presents user token) → d = [] ∧ e = .finished (.error (.token .missing))
  /-- A token is verified before anything else happens. -/
  first : ∀ token, Presents user token → ∃ r after, d = ⟨.verify token updateScope, r⟩ :: after
  /-- A refusal of the verifier is passed on as it is, and nothing is patched. -/
  refused : ∀ token scope b, ⟨.verify token scope, .answer (.error b)⟩ ∈ d →
    e = .finished (.error (.token b)) ∧ ∀ x ∈ d, x.op.isPatch = false
  /-- Without a domain nothing is patched, even if the verifier accepts. -/
  noDomain : Text.isBlankText service.domain → (∀ x ∈ d, x.op.isPatch = false) ∧
    ∀ token scope claims, ⟨.verify token scope, .answer (.ok claims)⟩ ∈ d →
      e = .finished (.error (.validation "domain" "directory domain is not configured"))
  /-- Without metadata nothing is patched, even if the verifier accepts. -/
  noMetadata : user.metadata = none → (∀ x ∈ d, x.op.isPatch = false) ∧
    (¬Text.isBlankText service.domain →
      ∀ token scope claims, ⟨.verify token scope, .answer (.ok claims)⟩ ∈ d →
        e = .finished
          (.error (.validation "user_metadata" "user metadata is required for update")))
  /-- With all three there, the patch is sent. -/
  sent : ∀ token scope claims metadata, ⟨.verify token scope, .answer (.ok claims)⟩ ∈ d →
    ¬Text.isBlankText service.domain → user.metadata = some metadata →
      ∃ r, d = [⟨.verify token scope, .answer (.ok claims)⟩,
        ⟨.patch token claims.subject metadata, r⟩]
  /-- A success is the answer of the patch, and holds nothing but the metadata stored. -/
  success : ∀ result, e = .finished (.ok result) → ∃ token target metadata stored,
    ⟨.patch token target metadata, .answer (.ok stored)⟩ ∈ d ∧ result = { metadata := stored }

theorem Presents.unique {user : User} {token other : String} (h : Presents user token)
    (h' : Presents user other) : other = token :=
  Option.some.inj (h'.1.symm.trans h.1)

/-- What stands in a dialogue of two exchanges stands first, or after the first alone. -/
theorem eq_or_eq_of_pair {x y z : Exchange} {before after : List Exchange}
    (h : [x, y] = before ++ z :: after) : x = z ∨ before = [x] ∧ y = z := by
  rcases before with - | ⟨b, - | ⟨b', before⟩⟩
  · exact .inl (List.cons.inj h).1
  · obtain ⟨rfl, hy⟩ := List.cons.inj h
    exact .inr ⟨rfl, (List.cons.inj hy).1⟩
  · simp at h

/-- Every way of an update respects the gate. -/
theorem UpdateRun.gated {service : Service} {user : User} {d : List Exchange} {e : Ending}
    (h : UpdateRun service user d e) : Gated service user d e where
  only := by cases h <;> simp
  once := by cases h <;> simp [Collaborator.isPatch]
  afterVerify := by
    intro before token target metadata r after hd
    cases h with
    | missing => simp at hd
    | unverified | refused | noDomain | noMetadata =>
      rcases before with - | ⟨x, before⟩ <;> simp at hd
    | unpatched hp _ hm | failed hp _ hm | updated hp _ hm =>
      obtain hx | ⟨rfl, hy⟩ := eq_or_eq_of_pair hd
      · cases hx
      · cases hy
        exact ⟨hp.1, hm, _, rfl, List.mem_singleton_self _⟩
  missing := by
    intro hn
    cases h with
    | missing => exact ⟨rfl, rfl⟩
    | unverified hp | refused hp | noDomain hp | noMetadata hp | unpatched hp | failed hp
    | updated hp => exact absurd hp (hn _)
  first := by
    intro token ht
    cases h with
    | missing hn => exact absurd ht (hn token)
    | unverified hp | refused hp | noDomain hp | noMetadata hp | unpatched hp | failed hp
    | updated hp =>
      obtain rfl := hp.unique ht
      exact ⟨_, _, rfl⟩
  refused := by
    intro token scope b hb
    cases h with
    | unverified _ hr =>
      cases List.mem_singleton.1 hb
      cases hr
    | _ => simp_all [Collaborator.isPatch]
  noDomain := by
    intro hd
    cases h with
    | unverified _ hr =>
      refine ⟨by simp [Collaborator.isPatch], fun token scope claims hc ↦ ?_⟩
      cases List.mem_singleton.1 hc
      cases hr
    | _ => simp_all [Collaborator.isPatch]
  noMetadata := by
    intro hm
    cases h with
    | unverified _ hr =>
      refine ⟨by simp [Collaborator.isPatch], fun _ token scope claims hc ↦ ?_⟩
      cases List.mem_singleton.1 hc
      cases hr
    | _ => simp_all [Collaborator.isPatch]
  sent := by
    intro token scope claims metadata hc hd hm
    cases h with
    | unverified _ hr =>
      cases List.mem_singleton.1 hc
      cases hr
    | _ => simp_all
  success := by
    intro result he
    cases h with
    | unverified _ hr | unpatched _ _ _ hr => cases he ▸ hr
    | updated =>
      cases he
      exact ⟨_, _, _, _, List.mem_cons_of_mem _ (List.mem_singleton_self _), rfl⟩
    | _ => cases he

/-- **An update is gated**, for every record, every service and all behaviour of the collaborators.
And the fields of the record other than token and metadata play no part: with any others in their
place the run is the same, calls and log and result. -/
theorem updateUser_gated {σ : Type} (service : Service) (user : User)
    (respond : σ → (op : Collaborator) → Program.Reply op.Answer × σ) (s : σ) :
    let run := fun user : User ↦ (service.program (.updateUser user)).run respond s
    let dialogue := (service.program (.updateUser user)).dialogue respond s
    (run user).asked = dialogue.map Program.Exchange.op ∧
      Gated service user dialogue (run user).ending ∧
      ∀ userId username primaryEmail sub,
        run { user with userId, username, primaryEmail, sub } = run user :=
  ⟨Program.asked_run respond _ s, (updateRun_of_conducts (Program.conducts_run respond _ s)).gated,
    fun _ _ _ _ ↦ rfl⟩

end Service

end AccountDirectory
