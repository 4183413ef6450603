import AccountDirectory.Selection

/-!
# The deciding identity

The scan of a search's accounts has four exits: it passes over an identity, passes over an account,
gives up, or accepts. The law here is flat: list the **confirmations** of all accounts in order,
that is, the pairs of an account and a text id of one of its password identities, and look at the
first of them only (`select_eq_verdict`).

What cannot change the outcome is read off that list: whatever follows the deciding account, and
whatever adds no confirmation.
-/

namespace AccountDirectory

/-- The id of a password identity, if it is a text; other identities have none. -/
def Identity.passwordId? (i : Identity) : Option String :=
  match i.userId with
  | some (.text id) => if i.connection = "Username-Password-Authentication" then some id else none
  | _ => none

/-- The text ids of the password identities, in order. -/
def Account.passwordIds (account : Account) : List String :=
  account.identities.filterMap Identity.passwordId?

theorem Identity.passwordId?_eq_some_iff {i : Identity} {id : String} :
    i.passwordId? = some id ↔
      i.connection = "Username-Password-Authentication" ∧ i.userId = some (.text id) := by
  rw [passwordId?]
  split
  · next h => simp [h, eq_comm, and_comm]
  · next h =>
    refine ⟨fun hn ↦ absurd hn (by simp), fun ⟨_, hi⟩ ↦ absurd hi (h id)⟩

theorem Identity.isPassword_iff {i : Identity} :
    i.isPassword ↔ i.connection = "Username-Password-Authentication" :=
  beq_iff_eq

/-- The account has a password identity with this id. -/
def Account.Owns (account : Account) (id : String) : Prop :=
  ∃ i ∈ account.identities,
    i.connection = "Username-Password-Authentication" ∧ i.userId = some (.text id)

theorem Account.mem_passwordIds_iff {account : Account} {id : String} :
    id ∈ account.passwordIds ↔ account.Owns id := by
  simp only [passwordIds, List.mem_filterMap, Identity.passwordId?_eq_some_iff, Owns]

namespace Selection

/-- **The confirmations** that accounts offer, in their order: each account with each text id of its
password identities. -/
def confirmations (accounts : List Account) : List (Account × String) :=
  accounts.flatMap fun account ↦ account.passwordIds.map (account, ·)

/-- What the first confirmation decides: the account is the one found, unless the search is by
username and another name is confirmed. -/
def verdict (criteria : Criteria) (requested : String) :
    Option (Account × String) → Except DirectoryError User
  | none => .error (.notFound "user not found")
  | some (account, id) =>
    if criteria = .username ∧ id ≠ requested then .error (.notFound "user not found")
    else .ok { account.toUser with username := id }

variable (criteria : Criteria) (requested : String)

/-! ### The scan is the flat law -/

/-- The scan of one account stops at its first text id. -/
theorem snd_confirm (account : Account) (identities : List Identity) :
    (confirm account identities).2 = (identities.filterMap Identity.passwordId?).head? := by
  induction identities with
  | nil => rfl
  | cons i rest ih =>
    rw [confirm]
    -- a password identity counts by its text id, any other one is passed over
    by_cases hc : i.isPassword
    · have hi : i.passwordId? = i.textId? := by
        rw [Identity.passwordId?, Identity.textId?]
        rcases i.userId with - | - | - <;> simp [Identity.isPassword_iff.1 hc, IdentityId.asText]
      rw [if_pos hc, List.filterMap_cons, hi]
      rcases i.textId? with - | id
      · exact ih
      · rfl
    · have hi : i.passwordId? = none := by
        rw [Option.eq_none_iff_forall_ne_some]
        intro id h
        exact hc (Identity.isPassword_iff.2 (Identity.passwordId?_eq_some_iff.1 h).1)
      rw [if_neg hc, List.filterMap_cons, hi]
      exact ih

/-- **The scan is the flat law**: only the first confirmation counts. -/
theorem select_eq_verdict (accounts : List Account) :
    select accounts criteria requested =
      verdict criteria requested (confirmations accounts).head? := by
  induction accounts with
  | nil => rfl
  | cons account rest ih =>
    have hfirst : (confirm account account.identities).2 = account.passwordIds.head? :=
      snd_confirm account account.identities
    rw [select, scan]
    rcases hc : confirm account account.identities with ⟨notes, - | id⟩
    · rw [hc] at hfirst
      have hnil : account.passwordIds = [] := List.head?_eq_none_iff.1 hfirst.symm
      rw [select] at ih
      simp [confirmations, hnil, ih]
    · rw [hc] at hfirst
      have hhead : (confirmations (account :: rest)).head? = some (account, id) := by
        simp [confirmations, ← hfirst]
      rw [hhead, verdict]
      dsimp only
      split <;> rfl

/-! ### What a success says -/

theorem mem_confirmations_iff {accounts : List Account} {account : Account} {id : String} :
    (account, id) ∈ confirmations accounts ↔ account ∈ accounts ∧ account.Owns id := by
  simp [confirmations, ← Account.mem_passwordIds_iff]

/-- A user that is found is a listed account under the id of one of its password identities, and
that id is the requested one if the search is by username. -/
theorem owns_of_select {accounts : List Account} {found : User}
    (h : select accounts criteria requested = .ok found) :
    (criteria = .username → found.username = requested) ∧
      ∃ account ∈ accounts, account.Owns found.username ∧
        found = { account.toUser with username := found.username } := by
  rw [select_eq_verdict] at h
  cases hf : (confirmations accounts).head? with
  | none =>
    rw [hf] at h
    cases h
  | some first =>
    obtain ⟨account, id⟩ := first
    have hm := mem_confirmations_iff.1 (List.mem_of_head? hf)
    rw [hf, verdict] at h
    split at h
    · cases h
    · next hn =>
      obtain rfl := Except.ok.inj h
      exact ⟨fun hc ↦ Decidable.not_not.1 fun hne ↦ hn ⟨hc, hne⟩, account, hm.1, hm.2, rfl⟩

/-! ### What cannot change the outcome -/

theorem confirmations_append (accounts later : List Account) :
    confirmations (accounts ++ later) = confirmations accounts ++ confirmations later :=
  List.flatMap_append

theorem confirmations_cons (account : Account) (rest : List Account) :
    confirmations (account :: rest) =
      account.passwordIds.map (account, ·) ++ confirmations rest :=
  List.flatMap_cons

/-- Accounts after one with a confirmation are not looked at. -/
theorem select_decided (before after later : List Account) {account : Account}
    (h : account.passwordIds ≠ []) :
    select (before ++ account :: after) criteria requested =
      select (before ++ account :: later) criteria requested := by
  have hne : account.passwordIds.map (account, ·) ≠ [] := by simpa using h
  simp only [select_eq_verdict, confirmations_append, confirmations_cons, List.head?_append,
    List.head?_eq_some_head hne, Option.some_or]

/-- An account without a confirmation may stand anywhere. -/
theorem select_passed_over (before after : List Account) {account : Account}
    (h : account.passwordIds = []) :
    select (before ++ account :: after) criteria requested =
      select (before ++ after) criteria requested := by
  simp only [select_eq_verdict, confirmations_append, confirmations_cons, h, List.map_nil,
    List.nil_append]

/-- An identity without a password id may stand anywhere in an account. -/
theorem select_identity_passed_over (before after : List Account) (account : Account)
    (front back : List Identity) {i : Identity} (h : i.passwordId? = none) :
    select (before ++ { account with identities := front ++ i :: back } :: after) criteria
        requested =
      select (before ++ { account with identities := front ++ back } :: after) criteria
        requested := by
  have hids : Account.passwordIds { account with identities := front ++ i :: back } =
      Account.passwordIds { account with identities := front ++ back } := by
    simp only [Account.passwordIds, List.filterMap_append, List.filterMap_cons, h]
  simp only [select_eq_verdict, confirmations_append, confirmations_cons, hids, List.head?_append]
  -- the two lists differ in the account of a pair, of which the verdict uses the same user
  rcases (confirmations before).head? with - | first
  · rcases Account.passwordIds { account with identities := front ++ back } with - | ⟨id, ids⟩
    · rfl
    · rfl
  · rfl

/-! ### What the requested name can change -/

/-- **The deciding id**: the id of the first confirmation, if there is one. -/
def decidingId (accounts : List Account) : Option String :=
  (confirmations accounts).head?.map Prod.snd

/-- The first account decides if it confirms an id. -/
theorem decidingId_cons (account : Account) (rest : List Account) :
    decidingId (account :: rest) =
      (confirm account account.identities).2.or (decidingId rest) := by
  rw [snd_confirm]
  show ((confirmations (account :: rest)).head?.map Prod.snd) =
    account.passwordIds.head?.or (decidingId rest)
  rw [confirmations_cons]
  cases account.passwordIds <;> rfl

/-- **The scan learns of a requested username how it is masked, and whether it is the deciding
id**; of anything else that is requested it learns nothing. What agrees on this is scanned for in
the same way, with the same outcome. -/
theorem scan_congr {accounts : List Account} {criteria : Criteria} {requested other : String}
    (hmasked : criteria = .username → Redaction.redact requested = Redaction.redact other)
    (hdecides : criteria = .username →
      ∀ id ∈ decidingId accounts, (id = requested ↔ id = other)) :
    scan criteria requested accounts = scan criteria other accounts := by
  induction accounts with
  | nil => rfl
  | cons account rest ih =>
    rw [decidingId_cons] at hdecides
    rw [scan, scan]
    rcases hc : confirm account account.identities with ⟨notes, - | id⟩
    · -- the account is passed over
      rw [hc] at hdecides
      rw [ih hdecides]
    · rw [hc] at hdecides
      have hrefused : (criteria = .username ∧ id ≠ requested) ↔
          (criteria = .username ∧ id ≠ other) :=
        and_congr_right fun hu ↦ not_congr (hdecides hu id rfl)
      dsimp only
      by_cases hr : criteria = .username ∧ id ≠ requested
      · rw [if_pos hr, if_pos (hrefused.1 hr), otherIdentity, hmasked hr.1, otherIdentity]
      · rw [if_neg hr, if_neg (mt hrefused.2 hr)]

end Selection

end AccountDirectory
