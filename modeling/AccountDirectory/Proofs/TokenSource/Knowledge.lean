import AccountDirectory.Proofs.Interleaving.History
import AccountDirectory.Proofs.TokenSource.Stages

/-!
# What a call for a service token knows

While a call for a service token is under way it has learned something: what is cached, that this is
no longer good, that it has been granted a token itself. `Knows` says what a call at each stage has
learned, as a fact about the history.

An event that neither grants nor stores a token is **neutral**, and after such an event every call
still knows what it knew (`Knows.cons_of_isNeutral`). What a call knows that does not have the lock
is about the past only, so it knows that after any event (`Knows.cons_of_not_isInside`).
-/

namespace AccountDirectory

open Interleaving (Event lastToken)

/-! ### Grants -/

namespace Interleaving

/-- A token that was granted to a call at a time. -/
structure Grant where
  time : Nat
  caller : Nat
  granted : GrantedToken

/-- The grant that an event is, if it is a successful answer of the token endpoint. -/
def Event.grant? (e : Event) : Option Grant :=
  match e.act with
  | .got _ answer => (GrantedToken.ofAnswer answer).toOption.map (⟨e.time, e.caller, ·⟩)
  | _ => none

/-- The latest grant. -/
def lastGrant (history : List Event) : Option Grant := history.findSome? Event.grant?

/-- The event neither grants nor stores a token. -/
def Event.IsNeutral (e : Event) : Prop := e.grant? = none ∧ e.act.storedToken? = none

variable {e : Event} {history : List Event}

theorem lastGrant_cons (h : e.grant? = none) : lastGrant (e :: history) = lastGrant history := by
  rw [lastGrant, List.findSome?_cons, h, lastGrant]

theorem lastToken_cons (h : e.act.storedToken? = none) :
    lastToken (e :: history) = lastToken history := by
  rw [lastToken, List.findSome?_cons, h, lastToken]

/-- The latest grant is an event of the history. -/
theorem exists_of_lastGrant_eq_some {grant : Grant} (h : lastGrant history = some grant) :
    ∃ e ∈ history, e.grant? = some grant ∧ e.time = grant.time ∧ e.caller = grant.caller := by
  obtain ⟨e, he, hg⟩ := List.exists_of_findSome?_eq_some h
  refine ⟨e, he, hg, ?_⟩
  rw [Event.grant?] at hg
  split at hg
  · obtain ⟨granted, -, rfl⟩ := Option.map_eq_some_iff.1 hg
    exact ⟨rfl, rfl⟩
  · cases hg

end Interleaving

open Interleaving (Grant lastGrant)

namespace TokenSource

variable {source : TokenSource} {history : List Event} {e : Event}

/-! ### What a history says of the kept token -/

/-- **The latest grant is kept**: it is what is cached, stored by the call that it was granted to,
with the time `stamp` that this call has read in between. -/
structure KeptAt (source : TokenSource) (history : List Event) (grant : Grant) (stamp : Nat) :
    Prop where
  latest : lastGrant history = some grant
  cached : lastToken history = some (source.entry grant.granted stamp)
  stored : ∃ time, ⟨time, grant.caller,
      .did (.storeToken (source.entry grant.granted stamp)) ()⟩ ∈ history ∧
    grant.time ≤ stamp ∧ stamp ≤ time

theorem KeptAt.cons {grant : Grant} {stamp : Nat} (h : KeptAt source history grant stamp)
    (he : e.IsNeutral) : KeptAt source (e :: history) grant stamp where
  latest := (Interleaving.lastGrant_cons he.1).trans h.latest
  cached := (Interleaving.lastToken_cons he.2).trans h.cached
  stored := by
    obtain ⟨time, hmem, hbounds⟩ := h.stored
    exact ⟨time, List.mem_cons_of_mem _ hmem, hbounds⟩

/-- What is cached is the latest grant. -/
def Settled (source : TokenSource) (history : List Event) : Prop :=
  ∀ entry, lastToken history = some entry → ∃ grant stamp, KeptAt source history grant stamp

theorem Settled.cons (h : Settled source history) (he : e.IsNeutral) :
    Settled source (e :: history) := by
  intro entry hentry
  rw [Interleaving.lastToken_cons he.2] at hentry
  obtain ⟨grant, stamp, hkept⟩ := h entry hentry
  exact ⟨grant, stamp, hkept.cons he⟩

/-- **The call was served from the cache**: at its check the latest grant was kept, and was still
good. -/
def Served (source : TokenSource) (history : List Event) (i : Nat) (token : String) : Prop :=
  ∃ later now earlier grant stamp,
    history = later ++ ⟨now, i, .did .steadyClock now⟩ :: earlier ∧
      KeptAt source earlier grant stamp ∧ token = grant.granted.token ∧
        now < stamp + 1000 * source.lifetime grant.granted.expiresIn

theorem Served.cons {i : Nat} {token : String} (h : Served source history i token) (e : Event) :
    Served source (e :: history) i token := by
  obtain ⟨later, now, earlier, grant, stamp, rfl, hrest⟩ := h
  exact ⟨e :: later, now, earlier, grant, stamp, rfl, hrest⟩

/-- The call was granted a token. -/
def WasGranted (history : List Event) (i : Nat) : Prop :=
  ∃ e ∈ history, e.caller = i ∧ e.grant?.isSome

theorem WasGranted.cons {i : Nat} (h : WasGranted history i) (e : Event) :
    WasGranted (e :: history) i := by
  obtain ⟨e', he', hcaller, hgrant⟩ := h
  exact ⟨e', List.mem_cons_of_mem e he', hcaller, hgrant⟩

/-- The call has found that what is cached is no longer good. -/
def FoundStale (history : List Event) (i : Nat) : Prop :=
  ∀ entry, lastToken history = some entry →
    ∃ now, ⟨now, i, .did .steadyClock now⟩ ∈ history ∧ entry.refreshAt ≤ now

theorem FoundStale.cons {i : Nat} (h : FoundStale history i) (he : e.act.storedToken? = none) :
    FoundStale (e :: history) i := by
  intro entry hentry
  rw [Interleaving.lastToken_cons he] at hentry
  obtain ⟨now, hmem, hle⟩ := h entry hentry
  exact ⟨now, List.mem_cons_of_mem e hmem, hle⟩

/-! ### What a call knows -/

/-- **What a call has learned** when it is at a stage. -/
def Knows (source : TokenSource) (history : List Event) (i : Nat) : Stage → Prop
  | .looked entry => lastToken history = some entry
  | .asking _ => FoundStale history i
  | .granted granted => ∃ time, lastGrant history = some ⟨time, i, granted⟩
  | .stamped granted now => ∃ time, lastGrant history = some ⟨time, i, granted⟩ ∧ time ≤ now ∧
    ⟨now, i, .did .steadyClock now⟩ ∈ history
  | .leaving (.ok token) | .left (.ok token) => Served source history i token ∨ WasGranted history i
  | _ => True

/-- Knowledge that does not depend on the cache. -/
theorem Knows.cons_of_not_isInside {i : Nat} {stage : Stage} (h : Knows source history i stage)
    (hstage : ¬stage.IsInside) : Knows source (e :: history) i stage := by
  cases stage with
  | left outcome =>
    rcases outcome with failure | token
    · trivial
    · exact h.imp (·.cons e) (·.cons e)
  | outside | dropped => trivial
  | _ => exact absurd trivial hstage

/-- A neutral event changes nothing. -/
theorem Knows.cons_of_isNeutral {i : Nat} {stage : Stage} (h : Knows source history i stage)
    (he : e.IsNeutral) : Knows source (e :: history) i stage := by
  cases stage with
  | looked entry => exact (Interleaving.lastToken_cons he.2).trans h
  | asking request => exact FoundStale.cons h he.2
  | granted granted =>
    obtain ⟨time, hlast⟩ := h
    exact ⟨time, (Interleaving.lastGrant_cons he.1).trans hlast⟩
  | stamped granted now =>
    obtain ⟨time, hlast, hle, hmem⟩ := h
    exact ⟨time, (Interleaving.lastGrant_cons he.1).trans hlast, hle, List.mem_cons_of_mem e hmem⟩
  | leaving outcome | left outcome =>
    rcases outcome with failure | token
    · trivial
    · exact h.imp (·.cons e) (·.cons e)
  | outside | entered | awaiting | dropped => trivial

theorem knows_demanding {i : Nat} (h : FoundStale history i) :
    Knows source history i source.demanding := by
  rw [demanding]
  rcases source.request with failure | request
  · trivial
  · exact h

end TokenSource

end AccountDirectory
