import AccountDirectory.Proofs.Interleaving.History
import AccountDirectory.Proofs.Verifier.KeyLookup
import AccountDirectory.Proofs.Verifier.Looks

/-!
# Rotated keys

A lookup for a key id that nobody has issued uses the same kept set, and the same quiet time, as the
lookup for a key that the issuer has just begun to use. `verify_rotates` says that the first cannot
stand in the way of the second, after any schedule of verifications.

**Why a lookup is never kept from fetching for nothing.** Nothing but a stored set makes a lookup
quiet, and it does so for the quiet time only. So when a lookup is quiet, the set that is kept is a
recent one. If all recent sets have the key, it is found in the kept one; if it is not found there,
then the set is not a recent one, and it is fetched again. The lifetime does not matter: a set that
is out of use does not make a lookup quiet, and a set that was stored just now is in use.

**Why a failed fetch does no harm.** A set is only stored as it was received
(`keeps_storesReceived_signingKey`). If the issuer publishes none, nothing is stored.
-/

namespace AccountDirectory

open Program (Conducts)
open Interleaving (State Move Event lastKeys)

/-! ### Stored sets -/

/-- The key sets that were stored, the newest first. -/
def Interleaving.storedKeys (history : List Event) : List CachedKeys :=
  history.filterMap (·.act.storedKeys?)

/-- The kept set is one of those that were stored. -/
theorem Interleaving.mem_storedKeys_of_lastKeys {history : List Event} {entry : CachedKeys}
    (h : lastKeys history = some entry) : entry ∈ storedKeys history := by
  obtain ⟨e, he, hentry⟩ := List.exists_of_findSome?_eq_some h
  exact List.mem_filterMap.2 ⟨e, he, hentry⟩

/-! ### Runs in a world -/

namespace World

variable {α : Type} {w : World}

theorem tick_of_delays_eq_nil (h : w.delays = []) : w.tick = w := by
  obtain ⟨clock, delays, calendar, token, keys, server⟩ := w
  obtain rfl : delays = [] := h
  rfl

theorem look_of_delays_eq_nil (h : w.delays = []) : w.look = w := by
  rw [look, tick_of_delays_eq_nil h]
  split <;> rfl

theorem server_respond (op : Effect) : (w.respond op).2.server = w.server := by
  cases op <;> rfl

/-- Only a store changes the kept set. -/
theorem keys_respond {op : Effect} (h : ∀ entry, op ≠ .storeKeys entry) :
    (w.respond op).2.keys = w.keys := by
  cases op with
  | storeKeys entry => exact absurd rfl (h entry)
  | _ => rfl

/-- **A run that stores no key set leaves the kept one as it is.** -/
theorem keys_run {p : Procedure α}
    (h : ∀ x ∈ p.dialogue respond w, ∀ entry, x.op ≠ .storeKeys entry) :
    (p.run respond w).state.keys = w.keys := by
  induction p generalizing w with
  | done a => rfl
  | note entry rest ih => exact ih h
  | ask op next ih =>
    have hkeys : (∀ entry, op ≠ .storeKeys entry) → (w.respond op).2.keys = w.keys := keys_respond
    rw [Program.dialogue] at h
    rw [Program.run]
    generalize w.respond op = reply at h hkeys ⊢
    rcases reply with ⟨a | _ | _, w'⟩
    · obtain ⟨hop, hrest⟩ := List.forall_mem_cons.1 h
      exact (ih a hrest).trans (hkeys hop)
    · exact hkeys (List.forall_mem_cons.1 h).1
    · exact hkeys (List.forall_mem_cons.1 h).1

/-- **What a run gets for a request is what the server makes of it.** -/
theorem eq_server_of_mem_dialogue {p : Procedure α} {request : Http.Request}
    {r : Program.Reply (Except Http.TransportFailure Http.Response)}
    (h : ⟨.exchange request, r⟩ ∈ p.dialogue respond w) : r = w.server request := by
  induction p generalizing w with
  | done a => cases h
  | note entry rest ih => exact ih h
  | ask op next ih =>
    have hserver : (w.respond op).2.server = w.server := server_respond op
    have hfirst : ∀ {r'}, (⟨.exchange request, r⟩ : Procedure.Exchange) = ⟨op, r'⟩ →
        (w.respond op).1 = r' → r = w.server request := by
      rintro r' hx hr
      cases hx
      exact hr.symm
    rw [Program.dialogue] at h
    generalize hreply : w.respond op = reply at h hserver hfirst
    rcases reply with ⟨a | _ | _, w'⟩
    · obtain hx | hrest := List.mem_cons.1 h
      · exact hfirst hx rfl
      · rw [ih a hrest, hserver]
    · exact hfirst (List.mem_singleton.1 h) rfl
    · exact hfirst (List.mem_singleton.1 h) rfl

end World

namespace Verifier

open World (respond Yields)

variable {v : Verifier} {keyId : Option String} {key : Token.SigningKey}

/-! ### Keys in force -/

/-- **The key is in force at a time**, as far as the stored sets tell. -/
structure InForce (stored : List CachedKeys) (keyId : Option String) (key : Token.SigningKey)
    (now : Nat) : Prop where
  /-- Each set that was fetched within the quiet time gives the key, -/
  recent : ∀ entry ∈ stored, now < entry.fetchedAt + quietTime →
    entry.keys.find? keyId = some key
  /-- and no set gives another one. -/
  unique : ∀ entry ∈ stored, ∀ other, entry.keys.find? keyId = some other → other = key

/-- A kept set that makes a lookup quiet gives the key that is in force. -/
theorem keyIn_eq_of_isQuiet {stored : List CachedKeys} {w : World}
    (hkept : ∀ entry ∈ w.keys, entry ∈ stored) (h : InForce stored keyId key w.clock)
    (hq : v.isQuiet w) : v.keyIn w keyId = some key := by
  rw [isQuiet] at hq
  cases hw : w.keys with
  | none =>
    rw [hw] at hq
    cases hq
  | some entry =>
    rw [hw, Option.elim_some, isYoung, Bool.and_eq_true, decide_eq_true_iff] at hq
    obtain ⟨hyoung, hcurrent⟩ := hq
    have hrecent : w.clock < entry.fetchedAt + quietTime := by omega
    exact v.keyIn_eq_some_iff.2 ⟨entry, hw, hcurrent, h.recent entry (hkept entry hw) hrecent⟩

/-- A set that is stored while the clock stands still gives its keys at the next look. -/
theorem keyIn_store {w : World} {set : Token.KeySet} (hdelays : w.delays = [])
    (hset : set.find? keyId = some key) : v.keyIn (w.store set).look keyId = some key := by
  have hstore : w.store set = { w with keys := some ⟨set, w.clock⟩ } := by
    rw [World.store, World.tick_of_delays_eq_nil hdelays]
  have hlook : (w.store set).look = w.store set := by
    refine World.look_of_delays_eq_nil ?_
    rw [hstore]
    exact hdelays
  rw [hlook, hstore]
  -- it bears the time that the clock still shows
  exact v.keyIn_eq_some_iff.2
    ⟨⟨set, w.clock⟩, rfl, v.isCurrent_iff.2 (Nat.le_add_right _ _), hset⟩

/-- **A lookup at one time returns the key that is in force**, if the issuer publishes it. -/
theorem exists_yields_of_inForce {stored : List CachedKeys} {w : World} {set : Token.KeySet}
    (hdelays : w.delays = []) (hkept : ∀ entry ∈ w.keys, entry ∈ stored)
    (h : InForce stored keyId key w.clock) (hpublished : v.Publishes w set)
    (hset : set.find? keyId = some key) : ∃ w', Yields (v.signingKey keyId) w key w' := by
  have hlook : w.look = w := World.look_of_delays_eq_nil hdelays
  cases hfirst : v.keyIn w keyId with
  | some found =>
    obtain ⟨entry, hw, -, hfound⟩ := v.keyIn_eq_some_iff.1 hfirst
    obtain rfl := h.unique entry (hkept entry hw) found hfound
    have hdecides : v.Decides keyId w w.look := .kept (by rw [hlook, hfirst]; rfl)
    exact ⟨w.look, yields_signingKey_iff.2 ⟨hdecides, by rw [hlook, hfirst]⟩⟩
  | none =>
    have hquiet : v.isQuiet w = false := by
      cases hq : v.isQuiet w with
      | false => rfl
      | true => cases hfirst.symm.trans (keyIn_eq_of_isQuiet hkept h hq)
    have hdecides : v.Decides keyId w (w.look.look.store set).look :=
      .fetched (by rw [hlook, hfirst]) (by rw [hlook, hlook, hquiet]) hpublished
    refine ⟨_, yields_signingKey_iff.2 ⟨hdecides, ?_⟩⟩
    rw [hlook, hlook]
    exact keyIn_store hdelays hset

/-! ### Failed fetches -/

/-- An answer that publishes a set is one that the server gives to the verifier's own request. -/
theorem publishes_of_published? {w : World} {request : Http.Request} {set : Token.KeySet}
    {answer : Except Http.TransportFailure Http.Response} (hbuilt : v.keysRequest = .ok request)
    (hserver : w.server request = .answer answer) (h : published? answer = some set) :
    v.Publishes w set := by
  cases answer with
  | error failure => cases h
  | ok response =>
    rw [published?] at h
    split at h
    · next hsuccess => exact ⟨request, response, hbuilt, hserver, hsuccess, h⟩
    · cases h

/-- **Without a published set, what is kept stays.** This holds of every procedure that asks for the
key set only and stores what it has received. -/
theorem keys_run_of_unpublished {α : Type} {p : Procedure α} {post : α → Prop} {w : World}
    (hstores : p.Keeps StoresReceived) (hsends : p.Obeys (Effect.SendsOnly v.keysRequest) post)
    (hunpublished : ∀ set, ¬v.Publishes w set) : (p.run respond w).state.keys = w.keys := by
  refine World.keys_run fun x hx entry hop ↦ ?_
  obtain ⟨op, r⟩ := x
  obtain rfl : op = .storeKeys entry := hop
  have hconducts := Program.conducts_run respond p w
  -- what is stored was published by the answer right before
  obtain ⟨before, after, hd⟩ := List.append_of_mem hx
  obtain ⟨before', request, answer, rfl, hanswer⟩ := hstores _ _ hconducts _ _ _ _ hd
  have hsent : ⟨.exchange request, .answer answer⟩ ∈ p.dialogue respond w := by
    rw [hd]
    simp
  have hbuilt : v.keysRequest = .ok request := (hconducts.obeys hsends).1 _ hsent
  have hserver : w.server request = .answer answer := (World.eq_server_of_mem_dialogue hsent).symm
  exact hunpublished entry.keys (publishes_of_published? hbuilt hserver hanswer)

/-- A key of the kept set is found as long as the set is in use. -/
theorem yields_of_kept {w : World} {entry : CachedKeys} (hw : w.keys = some entry)
    (hcurrent : v.isCurrent entry w.look.clock) (hfound : entry.keys.find? keyId = some key) :
    Yields (v.signingKey keyId) w key w.look := by
  have hlook : v.keyIn w.look keyId = some key :=
    v.keyIn_eq_some_iff.2 ⟨entry, World.keys_look.trans hw, hcurrent, hfound⟩
  exact yields_signingKey_iff.2 ⟨.kept (by rw [hlook]; rfl), hlook⟩

/-! ### The law -/

/-- **The law of rotated keys**, about a state that verifications have come to. A further lookup is
run in a world in which the key set is kept that is kept in that state. -/
structure Rotates (v : Verifier) (s : State (Except TokenError Claims)) : Prop where
  /-- The key that is in force at the time of the lookup is returned, if the issuer publishes it
  and no time passes during the lookup. -/
  found : ∀ (keyId : Option String) (key : Token.SigningKey) (set : Token.KeySet) (w : World),
    w.keys = s.keys → w.delays = [] →
      InForce (Interleaving.storedKeys s.history) keyId key w.clock →
        v.Publishes w set → set.find? keyId = some key →
          ((v.signingKey keyId).run.run respond w).ending = .finished (.ok key)
  /-- If the issuer publishes no set, the lookup leaves the kept one as it is. -/
  untouched : ∀ (keyId : Option String) (w : World), w.keys = s.keys →
    (∀ set, ¬v.Publishes w set) → ((v.signingKey keyId).run.run respond w).state.keys = s.keys
  /-- So a key that was returned before is returned as long as the set is in use. -/
  still : ∀ (keyId otherId : Option String) (key : Token.SigningKey) (before after w u : World),
    Yields (v.signingKey otherId) before key after → after.keys = s.keys → w.keys = s.keys →
      (∀ set, ¬v.Publishes w set) →
        u.keys = ((v.signingKey keyId).run.run respond w).state.keys →
          (∀ entry ∈ u.keys, v.isCurrent entry u.look.clock) →
            ((v.signingKey otherId).run.run respond u).ending = .finished (.ok key)

/-- **Rotation is not blocked by other traffic**: the law holds after every schedule of
verifications, those that let each one complete before the next among them. -/
theorem verify_rotates (v : Verifier) (tokens scopes : Nat → String) (moves : List Move) :
    Rotates v (State.run (fun i ↦ (v.verify (tokens i) (scopes i)).run) moves) := by
  have hr := Interleaving.remembers_run (fun i ↦ (v.verify (tokens i) (scopes i)).run) moves
  generalize State.run (fun i ↦ (v.verify (tokens i) (scopes i)).run) moves = s at hr
  have hkept : ∀ {w : World}, w.keys = s.keys →
      ∀ entry ∈ w.keys, entry ∈ Interleaving.storedKeys s.history := by
    intro w hw entry hentry
    rw [hw, hr.keys] at hentry
    exact Interleaving.mem_storedKeys_of_lastKeys hentry
  have huntouched : ∀ (keyId : Option String) (w : World), w.keys = s.keys →
      (∀ set, ¬v.Publishes w set) →
        ((v.signingKey keyId).run.run respond w).state.keys = s.keys := by
    intro keyId w hw hunpublished
    rw [keys_run_of_unpublished keeps_storesReceived_signingKey (v.signingKey_obeys keyId)
      hunpublished, hw]
  refine ⟨?_, huntouched, ?_⟩
  · intro keyId key set w hw hdelays hforce hpublished hset
    obtain ⟨w', hyields⟩ := exists_yields_of_inForce hdelays (hkept hw) hforce hpublished hset
    exact hyields.1
  · intro keyId otherId key before after w u hbefore hafter hw hunpublished hu hcurrent
    rw [huntouched keyId w hw hunpublished] at hu
    obtain ⟨-, hkeyIn⟩ := yields_signingKey_iff.1 hbefore
    obtain ⟨entry, hentry, -, hfound⟩ := v.keyIn_eq_some_iff.1 hkeyIn
    have hkeys : u.keys = some entry := hu.trans (hafter.symm.trans hentry)
    exact (yields_of_kept hkeys (hcurrent entry hkeys) hfound).1

end Verifier

end AccountDirectory
